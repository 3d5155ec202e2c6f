import Sitework.Proofs.Style.Declared

/-!
# Conditions on the values of a style

A style meets a condition if each of its values does. Setting values, merging styles and changing
the position keep this, and what is read for a rendered property meets what its reader ensures.
-/

namespace Sitework

namespace Style

/-- Every value of the style meets a condition. -/
def Meets (P : (p : Property) → p.Value → Prop) (s : Style) : Prop :=
  ∀ p x, s.get p = some x → P p x

section Meets

variable {P : (p : Property) → p.Value → Prop} {s t : Style}

/-- The empty style meets every condition. -/
theorem Meets.empty : Style.empty.Meets P := by
  intro p x hx
  rw [get_empty] at hx
  cases hx

/-- A style meets a condition with one more value that does. -/
theorem Meets.set (hs : s.Meets P) {q : Property} {value : q.Value} (hvalue : P q value) :
    (s.set q value).Meets P := by
  intro p x hx
  by_cases hp : q = p
  · subst hp
    rw [get_set_self] at hx
    exact Option.some_inj.1 hx ▸ hvalue
  · rw [get_set_of_ne _ _ hp] at hx
    exact hs p x hx

/-- Merged styles meet what both of them do. -/
theorem Meets.merge (hs : s.Meets P) (ht : t.Meets P) : (s.merge t).Meets P := by
  intro p x hx
  rw [get_merge, Option.or_eq_some_iff] at hx
  rcases hx with hx | ⟨-, hx⟩
  · exact ht p x hx
  · exact hs p x hx

/-- A condition that every position meets is kept when the position changes. -/
theorem Meets.withPosition (h : s.Meets P) (hposition : ∀ x, P .position x)
    (position : Option Position) : (s.withPosition position).Meets P := by
  intro p x hx
  by_cases hp : p = .position
  · subst hp
    exact hposition x
  · rw [get_withPosition_of_ne _ _ hp] at hx
    exact h p x hx

/-- Grid tracks meet a condition if their count and their size do. -/
theorem meets_tracks (tracks : GridTracks) {a : GridAxis} (hcount : P (.trackCount a) tracks.count)
    (hsize : P (.trackSize a) tracks.size) : (tracks.toStyle a).Meets P := by
  intro p x hx
  by_cases h : CssProperty.owner p = .gridTemplate a
  · cases p <;> cases h
    · rw [GridTracks.get_toStyle_count] at hx
      exact Option.some_inj.1 hx ▸ hcount
    · rw [GridTracks.get_toStyle_size] at hx
      exact Option.some_inj.1 hx ▸ hsize
  · rw [tracks.get_toStyle_of_owner_ne h] at hx
    cases hx

/-- A transform meets a condition if its parts do. -/
theorem meets_transform {t : Transform} (h : ∀ part, P (.transform part) (t.get part)) :
    t.toStyle.Meets P := by
  intro p x hx
  by_cases howner : CssProperty.owner p = .transform
  · cases p <;> cases howner
    rw [Transform.get_toStyle] at hx
    exact Option.some_inj.1 hx ▸ h _
  · rw [t.get_toStyle_of_owner_ne howner] at hx
    cases hx

end Meets

end Style

namespace CssProperty

variable {P : (p : Property) → p.Value → Prop} {d : CssProperty} {value : String} {s : Style}

/-- What is read for a property meets a condition if its reader gives nothing else. -/
theorem meets_read (h : d.read value = .ok s)
    (halone : ∀ c, d.single? = some c → ∀ x, c.reading value = .ok x → P c.property x)
    (htracks : ∀ a tracks, d = .gridTemplate a → Value.gridTemplate value = .ok tracks →
      P (.trackCount a) tracks.count ∧ P (.trackSize a) tracks.size)
    (htransform : ∀ t, d = .transform → Value.transform value = .ok t →
      ∀ part, P (.transform part) (t.get part)) : s.Meets P := by
  cases hsingle : d.single? with
  | some c =>
    obtain ⟨x, hread, rfl⟩ := c.exists_of_read h
    exact Style.Meets.set .empty (halone c hsingle x hread)
  | none =>
    cases d with
    | gridTemplate a =>
      obtain ⟨tracks, hread, rfl⟩ := exists_of_map_eq_ok h
      obtain ⟨hcount, hsize⟩ := htracks a tracks rfl hread
      exact Style.meets_tracks tracks hcount hsize
    | transform =>
      obtain ⟨t, hread, rfl⟩ := exists_of_map_eq_ok h
      exact Style.meets_transform (htransform t rfl hread)
    | _ => cases hsingle

end CssProperty

end Sitework
