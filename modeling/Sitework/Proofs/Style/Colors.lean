import Mathlib.Tactic.SplitIfs
import Sitework.Style.Value

/-!
# The normal form of colors

The written form of a color is a hash and lower-case hexadecimal digits, six of them, or eight
when the color is not opaque. A text of that form reads as a color with the same written form: each
byte survives the way through a channel of 32 bits. So all notations of a color, rounded to bytes,
have one normal form.
-/

namespace Sitework

namespace Text

/-- Characters without blanks among them have none at either end. -/
theorem trim_of_not_blank {cs : List Char} (h : ∀ c ∈ cs, isBlank c = false) : trim cs = cs := by
  have hdrop {xs : List Char} (hxs : ∀ c ∈ xs, isBlank c = false) : xs.dropWhile isBlank = xs := by
    cases xs with
    | nil => rfl
    | cons x xs => simp [hxs x (by simp)]
  rw [trim, hdrop h, trimRight, hdrop fun c hc => h c (List.mem_reverse.1 hc), List.reverse_reverse]

end Text

namespace Hex

/-- The digits in lower case, by value. -/
def lowerDigits : List Char := "0123456789abcdef".toList

/-- A digit is written in lower case. -/
theorem digit_mem_lowerDigits (n : Nat) : digit n ∈ lowerDigits := by
  have h : ∀ k < 16, Nat.digitChar k ∈ lowerDigits := by decide
  exact h _ (Nat.mod_lt n (by decide))

end Hex

namespace Color

/-- A color text in normal form: a hash and lower-case digits, with an opacity only if that is not
full. -/
def IsNormal (text : String) : Prop :=
  ∃ ds : List Char, text.toList = '#' :: ds ∧ (∀ d ∈ ds, d ∈ Hex.lowerDigits) ∧
    (ds.length = 6 ∨ ds.length = 8 ∧ ds.drop 6 ≠ ['f', 'f'])

/-- A byte survives the way through its channel. -/
theorem byte_channel (b : UInt8) : byte (b.toFloat32 / 255) = b := by
  have h : ∀ n : Fin 256, byte ((UInt8.ofNat n).toFloat32 / 255) = UInt8.ofNat n := by
    decide +kernel
  simpa using h ⟨b.toNat, b.toNat_lt⟩

/-- Writing the color of four bytes gives their digits. -/
theorem css_ofBytes (r g b a : UInt8) :
    (ofBytes r g b a).css =
      String.ofList ('#' :: (if a = 255 then hexByte r ++ hexByte g ++ hexByte b
        else hexByte r ++ hexByte g ++ hexByte b ++ hexByte a)) := by
  simp only [css, ofBytes, byte_channel]

/-- Two lower-case digits are those of the byte that they read as. -/
theorem exists_paired? {x y : Char} (hx : x ∈ Hex.lowerDigits) (hy : y ∈ Hex.lowerDigits) :
    ∃ v, paired? x y = some v ∧ hexByte v = [x, y] := by
  have hall : (Hex.lowerDigits.all fun x => Hex.lowerDigits.all fun y =>
      (paired? x y).any fun v => hexByte v == [x, y]) = true := by decide
  have hpair := List.all_eq_true.1 (List.all_eq_true.1 hall x hx) y hy
  obtain ⟨v, hv, hdigits⟩ := Option.any_eq_true .. |>.1 hpair
  exact ⟨v, hv, by simpa using hdigits⟩

/-- So are the two digits of a byte. -/
theorem mem_lowerDigits_of_mem_hexByte {v : UInt8} {c : Char} (h : c ∈ hexByte v) :
    c ∈ Hex.lowerDigits := by
  simp only [hexByte, List.mem_cons, List.not_mem_nil, or_false] at h
  rcases h with rfl | rfl <;> exact Hex.digit_mem_lowerDigits _

/-- Only the greatest byte is written with two f. -/
theorem eq_of_hexByte_ff {v : UInt8} (h : hexByte v = ['f', 'f']) : v = 255 := by
  have hall : ∀ n : Fin 256, hexByte (UInt8.ofNat n) = ['f', 'f'] → UInt8.ofNat n = 255 := by
    decide +kernel
  simpa using hall ⟨v.toNat, v.toNat_lt⟩ (by simpa using h)

/-- The written form of a color is in normal form. -/
theorem isNormal_css (c : Color) : IsNormal c.css := by
  refine ⟨_, String.toList_ofList, ?_, ?_⟩
  · intro d hd
    split at hd <;> simp only [List.mem_append] at hd
    · rcases hd with (hd | hd) | hd <;> exact mem_lowerDigits_of_mem_hexByte hd
    · rcases hd with ((hd | hd) | hd) | hd <;> exact mem_lowerDigits_of_mem_hexByte hd
  · split
    · exact .inl rfl
    · next halpha => exact .inr ⟨rfl, fun h => halpha (eq_of_hexByte_ff h)⟩

/-- The digits of a color in normal form read as a color with that written form. -/
private theorem exists_ofHex? {ds : List Char} (hds : ∀ d ∈ ds, d ∈ Hex.lowerDigits)
    (hlength : ds.length = 6 ∨ ds.length = 8 ∧ ds.drop 6 ≠ ['f', 'f']) :
    ∃ c, ofHex? ds = some c ∧ c.css = String.ofList ('#' :: ds) := by
  rcases hlength with hsix | ⟨height, halpha⟩
  · obtain ⟨r, r', g, g', b, b', rfl⟩ : ∃ r r' g g' b b', ds = [r, r', g, g', b, b'] := by
      obtain _ | ⟨r, _ | ⟨r', _ | ⟨g, _ | ⟨g', _ | ⟨b, _ | ⟨b', _ | _⟩⟩⟩⟩⟩⟩ := ds <;> simp at hsix
      exact ⟨r, r', g, g', b, b', rfl⟩
    simp only [List.mem_cons, List.not_mem_nil, or_false, forall_eq_or_imp, forall_eq] at hds
    obtain ⟨hr, hr', hg, hg', hb, hb'⟩ := hds
    obtain ⟨red, hred, hredDigits⟩ := exists_paired? hr hr'
    obtain ⟨green, hgreen, hgreenDigits⟩ := exists_paired? hg hg'
    obtain ⟨blue, hblue, hblueDigits⟩ := exists_paired? hb hb'
    refine ⟨ofBytes red green blue 255, ?_, ?_⟩
    · simp [ofHex?, hred, hgreen, hblue]
    · simp [css_ofBytes, hredDigits, hgreenDigits, hblueDigits]
  · obtain ⟨r, r', g, g', b, b', a, a', rfl⟩ :
        ∃ r r' g g' b b' a a', ds = [r, r', g, g', b, b', a, a'] := by
      obtain _ | ⟨r, _ | ⟨r', _ | ⟨g, _ | ⟨g', _ | ⟨b, _ | ⟨b', _ | ⟨a, _ | ⟨a', _ | _⟩⟩⟩⟩⟩⟩⟩⟩ :=
        ds <;> simp at height
      exact ⟨r, r', g, g', b, b', a, a', rfl⟩
    simp only [List.mem_cons, List.not_mem_nil, or_false, forall_eq_or_imp, forall_eq] at hds
    obtain ⟨hr, hr', hg, hg', hb, hb', ha, ha'⟩ := hds
    obtain ⟨red, hred, hredDigits⟩ := exists_paired? hr hr'
    obtain ⟨green, hgreen, hgreenDigits⟩ := exists_paired? hg hg'
    obtain ⟨blue, hblue, hblueDigits⟩ := exists_paired? hb hb'
    obtain ⟨alpha, hopacity, halphaDigits⟩ := exists_paired? ha ha'
    have hne : alpha ≠ 255 := by
      rintro rfl
      exact halpha (halphaDigits.symm.trans (by decide))
    refine ⟨ofBytes red green blue alpha, ?_, ?_⟩
    · simp [ofHex?, hred, hgreen, hblue, hopacity]
    · simp [css_ofBytes, hne, hredDigits, hgreenDigits, hblueDigits, halphaDigits]

/-- A color in normal form is its own normal form. -/
theorem color_of_isNormal {text : String} (h : IsNormal text) : Value.color text = .ok text := by
  obtain ⟨ds, htext, hds, hlength⟩ := h
  obtain ⟨c, hc, hcss⟩ := exists_ofHex? hds hlength
  have hblank : ∀ d ∈ '#' :: ds, Text.isBlank d = false := by
    have hdigit : (Hex.lowerDigits.all fun d => !Text.isBlank d) = true := by decide
    intro d hd
    rcases List.mem_cons.1 hd with rfl | hd
    · decide
    · simpa using List.all_eq_true.1 hdigit d (hds d hd)
  have hname : String.ofList (Text.lower ('#' :: ds)) ≠ "transparent" := by
    intro h
    have := congrArg (fun s => s.toList.head?) h
    simp [Text.lower] at this
  have hparse : parse text = .ok c := by
    rw [parse, htext, Text.trim_of_not_blank hblank, ofTrimmed, if_neg hname]
    simp [Text.after?, hc]
  rw [Value.color, hparse]
  simp only [hcss, ← htext, String.ofList_toList]

/-- What reads as a color reads as its normal form. -/
theorem isNormal_of_color {text normal : String} (h : Value.color text = .ok normal) :
    IsNormal normal := by
  unfold Value.color at h
  split at h
  · next c _ => exact Except.ok.inj h ▸ isNormal_css c
  · simp at h

/-- The channels of a color, rounded to bytes. -/
def rounded (c : Color) : UInt8 × UInt8 × UInt8 × UInt8 :=
  (byte c.red, byte c.green, byte c.blue, byte c.alpha)

/-- The rounded color of a text that denotes one. -/
def rounded? (text : String) : Option (UInt8 × UInt8 × UInt8 × UInt8) :=
  (parse text).toOption.map rounded

/-- The digits of a byte are those of no other one. -/
theorem hexByte_injective : Function.Injective hexByte := by
  intro v w h
  have hread (v : UInt8) : paired? (Hex.digit (v.toNat / 16)) (Hex.digit v.toNat) = some v := by
    have hall : ∀ n : Fin 256, paired? (Hex.digit ((UInt8.ofNat n).toNat / 16))
        (Hex.digit (UInt8.ofNat n).toNat) = some (UInt8.ofNat n) := by
      decide +kernel
    simpa using hall ⟨v.toNat, v.toNat_lt⟩
  obtain ⟨hhigh, hlow⟩ : _ ∧ _ := by simpa [hexByte] using h
  exact Option.some.inj ((hread v).symm.trans (hhigh ▸ hlow ▸ hread w))

/-- The last two digits tell the last byte. -/
theorem append_hexByte_inj {xs ys : List Char} {v w : UInt8} :
    xs ++ hexByte v = ys ++ hexByte w ↔ xs = ys ∧ v = w := by
  constructor
  · intro h
    obtain ⟨hxs, hbyte⟩ := List.append_inj' h rfl
    exact ⟨hxs, hexByte_injective hbyte⟩
  · rintro ⟨rfl, rfl⟩
    rfl

/-- Two colors are written alike exactly if they are rounded alike. -/
theorem css_eq_iff {c d : Color} : c.css = d.css ↔ c.rounded = d.rounded := by
  constructor
  · intro h
    have hdigits := (List.cons.inj (String.ofList_injective h)).2
    simp only [rounded, Prod.mk.injEq]
    split_ifs at hdigits with hc hd hd
    · obtain ⟨hfirst, hblue⟩ := append_hexByte_inj.1 hdigits
      obtain ⟨hred, hgreen⟩ := append_hexByte_inj.1 hfirst
      exact ⟨hexByte_injective hred, hgreen, hblue, hc.trans hd.symm⟩
    · exact absurd (congrArg List.length hdigits) (by simp [hexByte])
    · exact absurd (congrArg List.length hdigits) (by simp [hexByte])
    · obtain ⟨hchannels, halpha⟩ := append_hexByte_inj.1 hdigits
      obtain ⟨hfirst, hblue⟩ := append_hexByte_inj.1 hchannels
      obtain ⟨hred, hgreen⟩ := append_hexByte_inj.1 hfirst
      exact ⟨hexByte_injective hred, hgreen, hblue, halpha⟩
  · intro h
    simp only [rounded, Prod.mk.injEq] at h
    obtain ⟨hred, hgreen, hblue, halpha⟩ := h
    simp only [css, hred, hgreen, hblue, halpha]

/-- The normal form of a text is that of the color that it is read as. -/
theorem color_eq_ok_iff {text normal : String} :
    Value.color text = .ok normal ↔ ∃ c, parse text = .ok c ∧ c.css = normal := by
  unfold Value.color
  split
  · next c hc => simp [hc]
  · next cause hcause => simp [hcause]

/-- What reads as a color reads in normal form: the normal form has the shape of one, is its own
normal form, and is that of exactly the texts with the same rounded color. -/
theorem isNormalForm_color {text normal : String} (h : Value.color text = .ok normal) :
    IsNormal normal ∧ Value.color normal = .ok normal ∧
      ∀ other, Value.color other = .ok normal ↔ rounded? other = rounded? text := by
  refine ⟨isNormal_of_color h, color_of_isNormal (isNormal_of_color h), fun other => ?_⟩
  obtain ⟨c, hc, rfl⟩ := color_eq_ok_iff.1 h
  rw [color_eq_ok_iff, rounded?, rounded?, hc]
  cases hother : parse other with
  | error cause => simp [Except.toOption]
  | ok d => simp [Except.toOption, css_eq_iff]

/-- A hue with blanks around it, and a name for the same color. -/
theorem isNormalForm_color_lime : Value.color "  HSL(120, 100%, 50%) " = .ok "#00ff00" ∧
    IsNormal "#00ff00" ∧ Value.color "#00ff00" = .ok "#00ff00" ∧
      rounded? "Lime" = rounded? "  HSL(120, 100%, 50%) " ∧ Value.color "Lime" = .ok "#00ff00" := by
  have hread : (Value.color "  HSL(120, 100%, 50%) ").toOption = some "#00ff00" := by
    decide +kernel
  have hcolor : Value.color "  HSL(120, 100%, 50%) " = .ok "#00ff00" := by
    cases htext : Value.color "  HSL(120, 100%, 50%) " with
    | error cause =>
      rw [htext] at hread
      cases hread
    | ok normal =>
      rw [htext] at hread
      exact congrArg Except.ok (Option.some.inj hread)
  have hlime : rounded? "Lime" = rounded? "  HSL(120, 100%, 50%) " := by decide +kernel
  obtain ⟨hnormal, hself, hsame⟩ := isNormalForm_color hcolor
  exact ⟨hcolor, hnormal, hself, hlime, (hsame "Lime").2 hlime⟩

end Color

end Sitework
