import Sitework.Proofs.Style.Codec
import Sitework.Proofs.Text.Character
import Sitework.Proofs.Text.Split

/-!
# Rendered values that tell their parts

Numbers are written with digits, a minus sign and a point, or as a word if they are not finite. None
of these characters is what the rendered forms of tracks and transforms put behind a number, so the
numbers can be cut out of the text, and different tracks or transforms have different texts. This
holds for infinite numbers and a NaN too, of which the rendered form is not read back.
-/

namespace Sitework

namespace Binary64

/-- The characters that are used to write numbers. -/
def isWritten (c : Char) : Bool :=
  c.isDigit || ['-', '.', 'i', 'n', 'f', 'N', 'a'].contains c

/-- What a number is written with are such characters. -/
theorem isWritten_of_mem_write {x : Binary64} {c : Char}
    (h : c ∈ (cssNumber.write x).toList) : isWritten c = true := by
  match x with
  | .infinite true =>
    have hall : ['-', 'i', 'n', 'f'].all isWritten = true := by decide
    exact List.all_eq_true.1 hall c h
  | .infinite false =>
    have hall : ['i', 'n', 'f'].all isWritten = true := by decide
    exact List.all_eq_true.1 hall c h
  | .nan =>
    have hall : ['N', 'a', 'N'].all isWritten = true := by decide
    exact List.all_eq_true.1 hall c h
  | .finite negative m fits =>
    obtain ⟨n, htext, -⟩ := exists_numeral (isFinite_finite negative m fits)
    rw [htext] at h
    rcases Numeral.mem_text h with hdigit | rfl | rfl
    · rw [isWritten, hdigit, Bool.true_or]
    · rfl
    · rfl

/-- A finite number is written without letters. -/
theorem isAlpha_eq_false_of_mem_write {x : Binary64} (hx : x.IsFinite) {c : Char}
    (h : c ∈ (cssNumber.write x).toList) : c.isAlpha = false := by
  obtain ⟨n, htext, -⟩ := exists_numeral hx
  rw [htext] at h
  rcases Numeral.mem_text h with hdigit | rfl | rfl
  · exact Text.isAlpha_eq_false_of_isDigit hdigit
  · rfl
  · rfl

/-- The words for what is no finite number have letters. -/
theorem exists_isAlpha_of_not_isFinite {x : Binary64} (hx : ¬ x.IsFinite) :
    ∃ c ∈ (cssNumber.write x).toList, c.isAlpha = true := by
  obtain rfl | rfl | rfl := eq_of_not_isFinite hx
  · exact ⟨'i', by decide, rfl⟩
  · exact ⟨'i', by decide, rfl⟩
  · exact ⟨'N', by decide, rfl⟩

/-- Of numbers that are written alike, either all are finite or none is. -/
theorem IsFinite.of_write_eq {x y : Binary64} (hx : x.IsFinite)
    (h : (cssNumber.write x).toList = (cssNumber.write y).toList) : y.IsFinite := by
  by_contra hy
  obtain ⟨c, hc, hletter⟩ := exists_isAlpha_of_not_isFinite hy
  rw [isAlpha_eq_false_of_mem_write hx (h ▸ hc)] at hletter
  cases hletter

/-- Different numbers are written differently, the two zeros included. -/
theorem write_injective {x y : Binary64}
    (h : (cssNumber.write x).toList = (cssNumber.write y).toList) : x = y := by
  by_cases hx : x.IsFinite
  · obtain ⟨n, hn, rfl⟩ := exists_numeral hx
    obtain ⟨n', hn', rfl⟩ := exists_numeral (hx.of_write_eq h)
    rw [hn, hn'] at h
    exact Option.some.inj ((read?_text n).symm.trans (h ▸ read?_text n'))
  · have hy : ¬ y.IsFinite := fun hy => hx (hy.of_write_eq h.symm)
    -- only three words are left
    obtain rfl | rfl | rfl := eq_of_not_isFinite hx <;>
      obtain rfl | rfl | rfl := eq_of_not_isFinite hy <;> first | rfl | cases h

/-- A number can be cut out of a text at a character that numbers are not written with. -/
theorem write_append_inj {x y : Binary64} {c : Char} {rest rest' : List Char}
    (hc : isWritten c = false)
    (h : (cssNumber.write x).toList ++ c :: rest = (cssNumber.write y).toList ++ c :: rest') :
    x = y ∧ rest = rest' := by
  have hstop (z : Binary64) : c ∉ (cssNumber.write z).toList := by
    intro hmem
    rw [isWritten_of_mem_write hmem] at hc
    cases hc
  have hcut := Text.breakOn?_append (hstop x) rest
  rw [h, Text.breakOn?_append (hstop y)] at hcut
  obtain ⟨htext, hrest⟩ := Prod.mk.inj (Option.some_inj.1 hcut)
  exact ⟨write_injective htext.symm, hrest.symm⟩

end Binary64

/-- Different track sizes have different texts. -/
theorem TrackSize.css_injective {x y : TrackSize} (h : x.css = y.css) : x = y := by
  have htext := congrArg String.toList h
  have hpixels (z : Binary64) : (TrackSize.px z).css.toList =
      (cssNumber.write z).toList ++ 'p' :: ['x'] := String.toList_append
  -- only pixels are written with this letter
  have hshare : 'p' ∉ TrackSize.auto.css.toList := by decide
  cases x with
  | auto =>
    cases y with
    | auto => rfl
    | px z => exact absurd (by rw [htext, hpixels]; simp) hshare
  | px z =>
    cases y with
    | auto => exact absurd (by rw [← htext, hpixels]; simp) hshare
    | px z' =>
      rw [hpixels, hpixels] at htext
      rw [(Binary64.write_append_inj (by decide) htext).1]

/-- Different tracks have different texts. -/
theorem GridTracks.css_injective {t u : GridTracks} (h : t.css = u.css) : t = u := by
  have htext := congrArg String.toList h
  have hcomma (n : Nat) : ',' ∉ (Numeral.ofNat n).text := by
    intro hmem
    rcases Numeral.mem_text hmem with hdigit | hdash | hpoint
    · exact absurd hdigit (by decide)
    · cases hdash
    · cases hpoint
  rw [Value.toList_gridTracks_css, Value.toList_gridTracks_css, List.append_cancel_left_eq,
    List.cons_inj_right] at htext
  have hcut := Text.breakOn?_append (hcomma t.count.toNat) (' ' :: (t.size.css.toList ++ [')']))
  rw [htext, Text.breakOn?_append (hcomma u.count.toNat)] at hcut
  obtain ⟨hcount, hrest⟩ := Prod.mk.inj (Option.some_inj.1 hcut)
  rw [Numeral.text_ofNat, Numeral.text_ofNat] at hcount
  have hsame := congrArg Decimal.ofDigits hcount
  rw [Decimal.ofDigits_digits, Decimal.ofDigits_digits] at hsame
  rw [List.cons_inj_right, List.append_cancel_right_eq] at hrest
  obtain ⟨count, size⟩ := t
  obtain ⟨count', size'⟩ := u
  rw [GridTracks.mk.injEq]
  exact ⟨UInt32.toNat.inj hsame.symm, TrackSize.css_injective (String.toList_injective hrest.symm)⟩

/-- Different transforms have different texts. -/
theorem Transform.css_injective {t u : Transform} (h : t.css = u.css) : t = u := by
  have htext := congrArg String.toList h
  simp only [Value.toList_transform_css, List.append_assoc, List.cons_append, List.nil_append,
    List.append_cancel_left_eq, List.cons_inj_right] at htext
  obtain ⟨hleft, htext⟩ := Binary64.write_append_inj (by decide) htext
  simp only [List.cons_inj_right] at htext
  obtain ⟨htop, htext⟩ := Binary64.write_append_inj (by decide) htext
  simp only [List.append_cancel_left_eq, List.cons_inj_right] at htext
  obtain ⟨hrotate, htext⟩ := Binary64.write_append_inj (by decide) htext
  simp only [List.append_cancel_left_eq, List.cons_inj_right] at htext
  obtain ⟨hscaleX, htext⟩ := Binary64.write_append_inj (by decide) htext
  simp only [List.cons_inj_right] at htext
  obtain ⟨hscaleY, -⟩ := Binary64.write_append_inj (by decide) htext
  cases t
  cases u
  simp_all

end Sitework
