import Sitework.Json.Text

/-!
# JSON strings read back

Reading takes one unit for each character that was written, and no character is a surrogate, so the
units of a text make up the text.
-/

namespace Sitework.Json.Text

variable {c : Char} {rest after : List Char} {units : List Nat}

/-- A one-letter escape is one unit, whatever follows. -/
private theorem units?_simpleEscape {e : Char} (he : simpleEscape? e = some c)
    (h : units? rest = some (units, after)) :
    units? ('\\' :: e :: rest) = some (c.toNat :: units, after) := by
  have hu : simpleEscape? 'u' = none := rfl
  have hne : e ≠ 'u' := by
    rintro rfl
    exact Option.some_ne_none c (he.symm.trans hu)
  simp [units?, hne, he, h]

/-- A control character is written by its last two hexadecimal digits. -/
private theorem hexUnit?_digits {n : Nat} (h : n < 32) :
    hexUnit? '0' '0' (Hex.digit (n / 16)) (Hex.digit n) = some n := by
  have units : ∀ k < 32, hexUnit? '0' '0' (Hex.digit (k / 16)) (Hex.digit k) = some k := by decide
  exact units n h

/-- A character is written as a one-letter escape, by its code point, or as it is. -/
private theorem escape_cases (c : Char) :
    (∃ e, simpleEscape? e = some c ∧ escape c = ['\\', e]) ∨
    (c.toNat < 32 ∧
      escape c = ['\\', 'u', '0', '0', Hex.digit (c.toNat / 16), Hex.digit c.toNat]) ∨
    (c ≠ '"' ∧ c ≠ '\\' ∧ ¬c.toNat < 32 ∧ escape c = [c]) := by
  by_cases hsimple : c ∈ ['"', '\\', '\x08', '\x0c', '\n', '\r', '\t']
  · left
    simp only [List.mem_cons, List.not_mem_nil, or_false] at hsimple
    rcases hsimple with rfl | rfl | rfl | rfl | rfl | rfl | rfl
    · exact ⟨'"', rfl, rfl⟩
    · exact ⟨'\\', rfl, rfl⟩
    · exact ⟨'b', rfl, rfl⟩
    · exact ⟨'f', rfl, rfl⟩
    · exact ⟨'n', rfl, rfl⟩
    · exact ⟨'r', rfl, rfl⟩
    · exact ⟨'t', rfl, rfl⟩
  · simp only [List.mem_cons, List.not_mem_nil, or_false, not_or] at hsimple
    obtain ⟨hquote, hslash, hb, hf, hn, hr, ht⟩ := hsimple
    have hescape : escape c = if c.toNat < 32 then
        ['\\', 'u', '0', '0', Hex.digit (c.toNat / 16), Hex.digit c.toNat] else [c] := by
      simp only [escape, hquote, hslash, hb, hf, hn, hr, ht, if_false]
    by_cases hcontrol : c.toNat < 32
    · exact .inr (.inl ⟨hcontrol, hescape.trans (if_pos hcontrol)⟩)
    · exact .inr (.inr ⟨hquote, hslash, hcontrol, hescape.trans (if_neg hcontrol)⟩)

/-- A written character is one unit, whatever follows. -/
theorem units?_escape (c : Char) (h : units? rest = some (units, after)) :
    units? (escape c ++ rest) = some (c.toNat :: units, after) := by
  rcases escape_cases c with ⟨e, he, hescape⟩ | ⟨hcontrol, hescape⟩ | ⟨hquote, hslash, hc, hescape⟩
  · rw [hescape]
    exact units?_simpleEscape he h
  · rw [hescape]
    simp [units?, hexUnit?_digits hcontrol, h]
  · rw [hescape]
    simp [units?, hslash, hc, h]

/-- The characters between the quotes are read one by one. -/
theorem units?_flatMap_escape (cs rest : List Char) :
    units? (cs.flatMap escape ++ '"' :: rest) = some (cs.map Char.toNat, rest) := by
  induction cs with
  | nil => simp [units?]
  | cons c cs ih => rw [List.flatMap_cons, List.append_assoc, units?_escape c ih, List.map_cons]

/-- No character is a surrogate. -/
theorem not_surrogate (c : Char) : c.toNat < 0xD800 ∨ 0xE000 ≤ c.toNat := by
  rcases c.valid with h | h
  · exact .inl h
  · exact .inr h.1

/-- So no character is the second half of a pair. -/
theorem isLowSurrogate_toNat (c : Char) : isLowSurrogate c.toNat = false := by
  have hc := not_surrogate c
  simp only [isLowSurrogate, Bool.and_eq_false_iff, decide_eq_false_iff_not]
  omega

/-- Nor is any the first half. -/
theorem isHighSurrogate_toNat (c : Char) : isHighSurrogate c.toNat = false := by
  have hc := not_surrogate c
  simp only [isHighSurrogate, Bool.and_eq_false_iff, decide_eq_false_iff_not]
  omega

/-- Code points of characters are these characters. -/
theorem ofUnits?_map_toNat (cs : List Char) : ofUnits? (cs.map Char.toNat) = some cs := by
  induction cs with
  | nil => rfl
  | cons c cs ih =>
    rw [List.map_cons, ofUnits?.eq_def]
    simp only [isLowSurrogate_toNat, isHighSurrogate_toNat, Bool.false_eq_true, if_false, ih,
      Option.map_some, Char.ofNat_toNat]

end Sitework.Json.Text
