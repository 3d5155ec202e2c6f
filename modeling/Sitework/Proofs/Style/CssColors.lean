import Sitework.Proofs.Style.Notation
import Sitework.Proofs.Text.Trim

/-!
# Colors that are no colors of CSS

The reader of colors takes more than the notations of CSS: digits without a hash, a plus sign in
place of the first digit of a byte, functions that CSS does not have, and blanks before the
parenthesis of a call. None of these is a notation of CSS, and every other color that is read is.
-/

namespace Sitework

namespace Hex

/-- A digit in lower case is a digit. -/
theorem isDigit_toLower {c : Char} (h : isDigit c = true) : isDigit c.toLower = true := by
  rw [isDigit_iff] at h ⊢
  rw [Text.toNat_toLower]
  simp only [Text.isUpper_iff]
  split <;> omega

end Hex

namespace Color

/-- The color functions of CSS. -/
def cssFunctions : List String :=
  ["rgb", "rgba", "hsl", "hsla", "hwb", "oklab", "oklch"]

/-- The other color functions that are read. -/
def otherFunctions : List String :=
  ["hsv", "hsva", "hwba"]

/-- The name of a color function in lower case, without blanks at its end. -/
def functionName (name : List Char) : String :=
  String.ofList (Text.lower (Text.trimRight name))

/-- The name of a color, or that of none, in any case. -/
def IsName (cs : List Char) : Prop :=
  String.ofList (Text.lower cs) = "transparent" ∨
    (named? (String.ofList (Text.lower cs))).isSome = true

/-- The notations that CSS has for a color. -/
inductive IsCss : List Char → Prop
  /-- A hash and digits. -/
  | hash {digits : List Char} : digits.length ∈ [3, 4, 6, 8] →
      (∀ c ∈ digits, Hex.isDigit c = true) → IsCss ('#' :: digits)
  /-- The name of a color. -/
  | named {cs : List Char} : IsName cs → IsCss cs
  /-- A function with its arguments. -/
  | call {name arguments : List Char} : String.ofList (Text.lower name) ∈ cssFunctions →
      IsCss (name ++ '(' :: arguments ++ [')'])

/-- The notations that are read as well. -/
inductive IsForeign : List Char → Prop
  /-- Digits without a hash. -/
  | bare {digits : List Char} : IsSignedHex digits → IsForeign digits
  /-- A plus sign among the digits. -/
  | signed {digits : List Char} : IsSignedHex digits → '+' ∈ digits → IsForeign ('#' :: digits)
  /-- A function that CSS does not have. -/
  | function {name arguments : List Char} : functionName name ∈ otherFunctions →
      IsForeign (name ++ '(' :: arguments ++ [')'])
  /-- Blanks between the name of a function and its parenthesis. -/
  | spaced {name arguments : List Char} : functionName name ∈ cssFunctions →
      Text.trimRight name ≠ name → IsForeign (name ++ '(' :: arguments ++ [')'])

variable {cs digits name arguments : List Char}

/-- The functions that are read. -/
theorem mem_functions_of_call {name : String} {x y z : List Char} {alpha : Float32} {color : Color}
    (h : call name x y z alpha = .ok color) : name ∈ cssFunctions ++ otherFunctions := by
  by_contra hnone
  simp only [cssFunctions, otherFunctions, List.cons_append, List.nil_append, List.mem_cons,
    List.not_mem_nil, or_false, not_or] at hnone
  simp [call, hnone] at h

/-- A call that is read as a color is one of a known function. -/
theorem mem_functions_of_ofCall {color : Color} (h : ofCall name arguments = .ok color) :
    functionName name ∈ cssFunctions ++ otherFunctions := by
  unfold ofCall at h
  simp only at h
  split at h
  · exact mem_functions_of_call h
  · split at h
    · exact mem_functions_of_call h
    · exact absurd h nofun
  · exact absurd h nofun

/-- A color that is read has a notation of CSS or one of the others. -/
theorem isCss_or_isForeign_of_ofTrimmed {color : Color} (h : ofTrimmed cs = .ok color) :
    IsCss cs ∨ IsForeign cs := by
  unfold ofTrimmed at h
  split at h
  · next htransparent => exact .inl (.named (.inl htransparent))
  · split at h
    · next digits hdigits =>
      obtain rfl : '#' :: digits = cs := Text.append_of_after? hdigits
      split at h
      · next found hhex =>
        have hsigned : IsSignedHex digits := isSignedHex_of_ofHex? (by rw [hhex]; rfl)
        by_cases hplus : '+' ∈ digits
        · exact .inr (.signed hsigned hplus)
        · exact .inl (.hash hsigned.1 fun c hc => (hsigned.2 c hc).resolve_right
            (ne_of_mem_of_not_mem hc hplus))
      · exact absurd h nofun
    · split at h
      · next name arguments hcall =>
        obtain rfl := append_of_splitCall? hcall
        rcases List.mem_append.1 (mem_functions_of_ofCall h) with hcss | hother
        · by_cases htrimmed : Text.trimRight name = name
          · rw [functionName, htrimmed] at hcss
            exact .inl (.call hcss)
          · exact .inr (.spaced hcss htrimmed)
        · exact .inr (.function hother)
      · split at h
        · next hhex => exact .inr (.bare (isSignedHex_of_ofHex? (by rw [hhex]; rfl)))
        · next hnamed => exact .inl (.named (.inr (by rw [hnamed]; rfl)))
        · exact absurd h nofun

/-- The name of a color holds a character that is no digit. -/
theorem IsName.exists_not_isDigit (h : IsName cs) :
    ∃ c ∈ cs, Hex.isDigit c = false ∧ c ≠ '+' := by
  have hnames : ((("transparent", 0) :: names).all fun entry =>
      entry.1.toList.any fun c => !Hex.isDigit c && c != '+') = true := by
    decide +kernel
  have hword : (Text.lower cs).any (fun c => !Hex.isDigit c && c != '+') = true := by
    rw [← String.toList_ofList (l := Text.lower cs)]
    rcases h with h | h
    · rw [h]
      exact List.all_eq_true.1 hnames ("transparent", 0) List.mem_cons_self
    · obtain ⟨n, hn⟩ := exists_mem_names_of_named? h
      exact List.all_eq_true.1 hnames (_, n) (List.mem_cons_of_mem _ hn)
  obtain ⟨_, hmem, hother⟩ := List.any_eq_true.1 hword
  obtain ⟨c, hc, rfl⟩ := List.mem_map.1 hmem
  rw [Bool.and_eq_true, Bool.not_eq_true', bne_iff_ne] at hother
  refine ⟨c, hc, ?_, ?_⟩
  · by_contra hdigit
    rw [Hex.isDigit_toLower (Bool.not_eq_false _ ▸ hdigit)] at hother
    exact Bool.noConfusion hother.1
  · rintro rfl
    exact hother.2 rfl

/-- A name is made of letters and digits. -/
theorem IsName.isAlphanum (h : IsName cs) : ∀ c ∈ cs, c.isAlphanum = true := by
  rcases h with h | h
  · exact Text.isAlphanum_of_lower_eq h (by decide)
  · exact Text.isAlphanum_of_lower_eq rfl (isAlphanum_of_named? h)

/-- The names of color functions have letters only. -/
theorem isAlphanum_of_mem_functions
    (h : String.ofList (Text.lower cs) ∈ cssFunctions ++ otherFunctions) :
    ∀ c ∈ cs, c.isAlphanum = true := by
  have hnames : ∀ name ∈ cssFunctions ++ otherFunctions,
      name.toList.all Char.isAlphanum = true := by
    decide
  exact Text.isAlphanum_of_lower_eq rfl (hnames _ h)

/-- Before the parenthesis of a call there are letters and blanks only. -/
theorem not_mem_of_functionName (h : functionName name ∈ cssFunctions ++ otherFunctions) :
    '(' ∉ name := by
  intro hmem
  by_cases hkept : '(' ∈ Text.trimRight name
  · exact absurd (isAlphanum_of_mem_functions h _ hkept) (by decide)
  · exact absurd (Text.isBlank_of_not_mem_trimRight hmem hkept) (by decide)

/-- The name of a call is what comes before its first parenthesis. -/
theorem eq_of_append_call {name' arguments' : List Char} (h : '(' ∉ name) (h' : '(' ∉ name')
    (hsame : name ++ '(' :: arguments ++ [')'] = name' ++ '(' :: arguments' ++ [')']) :
    name = name' := by
  have hcut := Text.breakOn?_append h (arguments ++ [')'])
  rw [List.append_assoc, List.append_assoc, List.cons_append, List.cons_append] at hsame
  rw [hsame, Text.breakOn?_append h'] at hcut
  exact (Prod.mk.inj (Option.some.inj hcut)).1.symm

namespace IsCss

/-- No color of CSS has a plus sign among its digits. -/
theorem not_isSignedHex (h : IsCss cs) : ¬IsSignedHex cs := by
  rintro ⟨-, hchars⟩
  cases h with
  | hash => exact absurd (hchars '#' List.mem_cons_self) (by decide)
  | named hname =>
    obtain ⟨c, hc, hdigit, hplus⟩ := hname.exists_not_isDigit
    rcases hchars c hc with h | h
    · exact Bool.false_ne_true (hdigit.symm.trans h)
    · exact hplus h
  | call => exact absurd (hchars '(' (by simp)) (by decide)

/-- After a hash, CSS has digits only. -/
theorem isDigit_of_hash (h : IsCss ('#' :: digits)) : ∀ c ∈ digits, Hex.isDigit c = true := by
  generalize hcs : '#' :: digits = cs at h
  cases h with
  | hash _ hdigits =>
    obtain ⟨-, rfl⟩ := List.cons.inj hcs
    exact hdigits
  | named hname =>
    have hhash := hname.isAlphanum '#' (hcs ▸ List.mem_cons_self)
    exact absurd hhash (by decide)
  | @call name arguments hname =>
    cases name with
    | nil => exact absurd hname (by decide)
    | cons c name =>
      obtain ⟨rfl, -⟩ := List.cons.inj hcs
      have hhash := isAlphanum_of_mem_functions (List.mem_append_left _ hname) '#'
        List.mem_cons_self
      exact absurd hhash (by decide)

/-- Before a parenthesis, CSS has the name of one of its functions, without blanks. -/
theorem mem_cssFunctions (h : IsCss (name ++ '(' :: arguments ++ [')'])) (hname : '(' ∉ name) :
    String.ofList (Text.lower name) ∈ cssFunctions ∧ Text.trimRight name = name := by
  have hmem : '(' ∈ name ++ '(' :: arguments ++ [')'] := by simp
  generalize hcs : name ++ '(' :: arguments ++ [')'] = cs at h hmem
  cases h with
  | hash _ hdigits =>
    rcases List.mem_cons.1 hmem with h | h
    · exact absurd h (by decide)
    · exact absurd (hdigits _ h) (by decide)
  | named hnamed => exact absurd (hnamed.isAlphanum _ hmem) (by decide)
  | @call other arguments' hother =>
    have hletters := isAlphanum_of_mem_functions (List.mem_append_left _ hother)
    have hfirst : '(' ∉ other := fun h => absurd (hletters _ h) (by decide)
    obtain rfl := eq_of_append_call hname hfirst hcs
    exact ⟨hother, (Text.isTrimmed_of_not_blank fun c hc =>
      Text.isBlank_of_isAlphanum (hletters c hc)).trimRight_eq_self⟩

/-- No notation of CSS is one of the others. -/
theorem not_isForeign (h : IsCss cs) : ¬IsForeign cs := by
  intro hforeign
  cases hforeign with
  | bare hsigned => exact h.not_isSignedHex hsigned
  | signed _ hplus => exact absurd (h.isDigit_of_hash _ hplus) (by decide)
  | function hother =>
    obtain ⟨hcss, htrimmed⟩ :=
      h.mem_cssFunctions (not_mem_of_functionName (List.mem_append_right _ hother))
    rw [functionName, htrimmed] at hother
    exact List.disjoint_of_nodup_append (by decide : (cssFunctions ++ otherFunctions).Nodup)
      hcss hother
  | spaced hname hspaced =>
    exact hspaced (h.mem_cssFunctions (not_mem_of_functionName (List.mem_append_left _ hname))).2

end IsCss

/-- A color that is read has a notation of CSS exactly if it has none of the others. -/
theorem isCss_iff_not_isForeign {text : String} (h : Validation.isColor text = true) :
    IsCss (Text.trim text.toList) ↔ ¬IsForeign (Text.trim text.toList) := by
  refine ⟨IsCss.not_isForeign, fun hforeign => ?_⟩
  obtain ⟨color, hcolor⟩ := Validation.isColor_iff_parse.1 h
  exact (isCss_or_isForeign_of_ofTrimmed hcolor).resolve_right hforeign

end Color

end Sitework
