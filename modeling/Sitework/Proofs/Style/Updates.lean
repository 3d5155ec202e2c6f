import Sitework.Proofs.Style.Canonical

/-!
# What an update changes

An update at a breakpoint sets its values there and at every narrower breakpoint, up to those where
a layer already sets a value of its own. Nothing else changes, at no breakpoint and for no property:
wider breakpoints stay as they are, and pruning changes no value.
-/

namespace Sitework

namespace Breakpoint

variable {b t w : Breakpoint}

/-- A breakpoint does not reach down to one exactly if it is narrower. -/
theorem contains_eq_false_iff : b.contains t = false ↔ b < t := by
  cases b <;> cases t <;> decide

/-- A breakpoint that reaches down to another one is wider. -/
theorem lt_of_contains_of_ne (h : b.contains t = true) (hne : t ≠ b) : t < b := by
  revert h hne
  cases b <;> cases t <;> decide

/-- A wider breakpoint is the greater one. -/
theorem lt_of_wider? (h : b.wider? = some w) : b < w := by
  cases b <;> cases h <;> decide

end Breakpoint

namespace Cascade

/-- The style and the layers with some values set at a breakpoint, before any pruning. -/
def written (base : Style) (overrides : Overrides) (b : Breakpoint) (update : Style) :
    Style × Overrides :=
  if b.isBase then (base.merge update, overrides)
  else (base, overrides.set b (some (((overrides.get b).getD Style.empty).merge update)))

variable {base : Style} {overrides : Overrides} {b t w : Breakpoint} {style : Style}
  {p : Property}

/-- An update sets the values and prunes the layers. -/
theorem update_eq_prune_written (base : Style) (overrides : Overrides) (b : Breakpoint)
    (style : Style) :
    update base overrides b style =
      ((written base overrides b style).1,
        prune (written base overrides b style).1 (written base overrides b style).2) := by
  rw [update, written]
  split <;> rfl

/-- A layer narrower than `b` that applies at `t` sets the property, so that values set at `b` do
not show there. -/
def IsHidden (overrides : Overrides) (b t : Breakpoint) (p : Property) : Prop :=
  ∃ c layer, c < b ∧ c.contains t = true ∧ overrides.get c = some layer ∧
    (layer.get p).isSome = true

/-- What is hidden at a breakpoint is so by its own layer or already at the next wider one. -/
theorem isHidden_iff_of_wider (h : t.wider? = some w) :
    IsHidden overrides b t p ↔
      (t < b ∧ ∃ layer, overrides.get t = some layer ∧ (layer.get p).isSome = true) ∨
        IsHidden overrides b w p := by
  constructor
  · rintro ⟨c, layer, hlt, hcontains, hlayer, hset⟩
    rcases (Breakpoint.contains_iff_of_wider h c).1 hcontains with rfl | hwider
    · exact .inl ⟨hlt, layer, hlayer, hset⟩
    · exact .inr ⟨c, layer, hlt, hwider, hlayer, hset⟩
  · rintro (⟨hlt, layer, hlayer, hset⟩ | ⟨c, layer, hlt, hwider, hlayer, hset⟩)
    · exact ⟨t, layer, hlt, (Breakpoint.contains_iff_of_wider h t).2 (.inl rfl), hlayer, hset⟩
    · exact ⟨c, layer, hlt, (Breakpoint.contains_iff_of_wider h c).2 (.inr hwider), hlayer, hset⟩

/-- No narrower layer applies at the breakpoint itself or at a wider one. -/
theorem not_isHidden (h : b.contains t = false ∨ t = b) : ¬ IsHidden overrides b t p := by
  rintro ⟨c, layer, hlt, hcontains, -⟩
  have hnarrower : c < t := by
    rcases h with h | rfl
    · exact Nat.lt_trans hlt (Breakpoint.contains_eq_false_iff.1 h)
    · exact hlt
  rw [Breakpoint.contains_eq_false_iff.2 hnarrower] at hcontains
  cases hcontains

/-- A value in force at a breakpoint is that of its layer, or else that of the next wider one. -/
theorem get_resolve_of_wider (base : Style) (overrides : Overrides) (h : t.wider? = some w)
    (p : Property) : (resolve base overrides t).get p =
      ((overrides.get t).bind (·.get p)).or ((resolve base overrides w).get p) := by
  rw [resolve_eq_cover base overrides h]
  cases overrides.get t with
  | none => rfl
  | some layer => rw [cover, Style.get_merge, Option.bind_some]

/-- Setting values at a breakpoint leaves the layers of all others. -/
theorem get_written_of_ne (h : t ≠ b) :
    (written base overrides b style).2.get t = overrides.get t := by
  rw [written]
  split
  · rfl
  · rw [Layers.get_set, if_neg h]

/-- Values that are set at a breakpoint below the base are those of its layer. -/
theorem get_written_self (h : b.wider? = some w) :
    ((written base overrides b style).2.get b).bind (·.get p) =
      (style.get p).or ((overrides.get b).bind (·.get p)) := by
  have hb : b.isBase = false := beq_eq_false_iff_ne.2 (Breakpoint.ne_monitor_of_wider? h)
  rw [written, hb, if_neg Bool.false_ne_true, Layers.get_set, if_pos rfl, Option.bind_some,
    Style.get_merge]
  cases overrides.get b with
  | none => rw [Option.getD_none, Style.get_empty, Option.bind_none]
  | some layer => rw [Option.getD_some, Option.bind_some]

/-- Before any pruning, values that are set at a breakpoint are in force exactly where it reaches
down to and no narrower layer hides them. -/
theorem get_resolve_written (base : Style) (overrides : Overrides) (b : Breakpoint)
    (style : Style) (p : Property) (t : Breakpoint) :
    (b.contains t = false ∨ IsHidden overrides b t p →
      (resolve (written base overrides b style).1 (written base overrides b style).2 t).get p =
        (resolve base overrides t).get p) ∧
    (b.contains t = true → ¬ IsHidden overrides b t p →
      (resolve (written base overrides b style).1 (written base overrides b style).2 t).get p =
        (style.get p).or ((resolve base overrides t).get p)) := by
  induction t using Breakpoint.widestFirst with
  | base =>
    cases b with
    | monitor =>
      refine ⟨fun h => ?_, fun _ _ => Style.get_merge base style p⟩
      exact absurd (h.resolve_left nofun) (not_isHidden (.inr rfl))
    | _ => exact ⟨fun _ => rfl, nofun⟩
  | step t w h ih =>
    rw [get_resolve_of_wider _ _ h, get_resolve_of_wider base overrides h]
    by_cases hown : t = b
    · subst hown
      have hwider : t.contains w = false :=
        Breakpoint.contains_eq_false_iff.2 (Breakpoint.lt_of_wider? h)
      have hreach : t.contains t = true := (Breakpoint.contains_iff_of_wider h t).2 (.inl rfl)
      rw [get_written_self h, ih.1 (.inl hwider), Option.or_assoc, hreach]
      refine ⟨fun hhidden => ?_, fun _ _ => rfl⟩
      exact absurd (hhidden.resolve_left nofun) (not_isHidden (.inr rfl))
    · rw [get_written_of_ne hown]
      cases hvalue : (overrides.get t).bind (·.get p) with
      | some x =>
        refine ⟨fun _ => rfl, fun hcontains hshown => absurd ?_ hshown⟩
        obtain ⟨layer, hlayer, hx⟩ := Option.bind_eq_some_iff.1 hvalue
        exact (isHidden_iff_of_wider h).2 (.inl ⟨Breakpoint.lt_of_contains_of_ne hcontains hown,
          layer, hlayer, Option.isSome_iff_exists.2 ⟨x, hx⟩⟩)
      | none =>
        -- a layer that does not set the property hides nothing
        have hhidden : IsHidden overrides b t p ↔ IsHidden overrides b w p := by
          rw [isHidden_iff_of_wider h, or_iff_right]
          rintro ⟨-, layer, hlayer, hset⟩
          rw [hlayer, Option.bind_some] at hvalue
          rw [hvalue] at hset
          cases hset
        have hreach : b.contains t = b.contains w := by
          rw [Bool.eq_iff_iff, Breakpoint.contains_iff_of_wider h, or_iff_right (Ne.symm hown)]
        rw [Option.none_or, Option.none_or, hhidden, hreach]
        exact ih

section Numbers

variable (hbase : base.HasNoNaN)
  (hlayers : ∀ b layer, b ≠ .monitor → overrides.get b = some layer → layer.HasNoNaN)
include hbase hlayers

/-- Values that are set hold no NaN if neither the old ones nor the new ones do. -/
theorem hasNoNaN_resolve_written (b : Breakpoint) (hstyle : style.HasNoNaN) (t : Breakpoint) :
    (resolve (written base overrides b style).1 (written base overrides b style).2 t).HasNoNaN := by
  intro p x hx
  obtain ⟨hold, hnew⟩ := get_resolve_written base overrides b style p t
  have hresolved := hasNoNaN_resolve hbase hlayers t
  by_cases hkept : b.contains t = false ∨ IsHidden overrides b t p
  · exact hresolved p x (hold hkept ▸ hx)
  · rw [not_or, Bool.not_eq_false] at hkept
    rw [hnew hkept.1 hkept.2, ← Style.get_merge] at hx
    exact hresolved.merge hstyle p x hx

/-- After an update, a property has at each breakpoint the value that it had before if the update
does not set it, does not reach down to the breakpoint, or is hidden there by a layer of a narrower
breakpoint that was there before; and otherwise it has the value of the update. Pruning, which is
part of it, changes no style in force. All this holds as long as no value is a NaN. -/
theorem sameAt_resolve_update (b : Breakpoint) (hstyle : style.HasNoNaN) (p : Property)
    (t : Breakpoint) :
    (style.get p = none ∨ b.contains t = false ∨ IsHidden overrides b t p →
      (resolve (update base overrides b style).1 (update base overrides b style).2 t).sameAt
        (resolve base overrides t) p = true) ∧
    ((style.get p).isSome = true → b.contains t = true → ¬ IsHidden overrides b t p →
      (resolve (update base overrides b style).1 (update base overrides b style).2 t).sameAt
        style p = true) ∧
    (resolve base (prune base overrides) t).sameValues (resolve base overrides t) = true := by
  obtain ⟨hold, hnew⟩ := get_resolve_written base overrides b style p t
  have hnumbers := Style.hasNoNaN_iff_plainAt.1
    (hasNoNaN_resolve_written hbase hlayers b hstyle t) p
  rw [update_eq_prune_written, Style.sameAt_iff, Style.sameAt_iff, plainAt_resolve_prune,
    and_iff_left hnumbers, and_iff_left hnumbers]
  refine ⟨fun h => congrArg _ ?_, fun hset hreach hshown => congrArg _ ?_,
    sameValues_resolve_prune hbase hlayers t⟩
  · by_cases hkept : b.contains t = false ∨ IsHidden overrides b t p
    · exact hold hkept
    · have hunset : style.get p = none := h.resolve_right hkept
      rw [not_or, Bool.not_eq_false] at hkept
      rw [hnew hkept.1 hkept.2, hunset, Option.none_or]
  · rw [hnew hreach hshown, Option.or_of_isSome hset]

end Numbers

/-- Turned and painted green at the base, the crate of the layers above is turned everywhere below
it too, up to tablets, where it also stays blue. -/
def crateUpdate : Style := { color := some "green", rotate := some 1 }

theorem sameAt_resolve_update_crate :
    (resolve (update crate crateLayers .monitor crateUpdate).1
        (update crate crateLayers .monitor crateUpdate).2 .tablet).sameAt
      (resolve crate crateLayers .tablet) (.color .text) = true := by
  have hhidden : IsHidden crateLayers .monitor .tablet (.color .text) :=
    ⟨.tablet, _, by decide, rfl, rfl, rfl⟩
  have hnumbers : crateUpdate.HasNoNaN := Style.sameValues_self_iff.1 (by decide +kernel)
  exact (sameAt_resolve_update hasNoNaN_crate hasNoNaN_crateLayers .monitor hnumbers (.color .text)
    .tablet).1 (.inr (.inr hhidden))

/-- The value that the layer of a breakpoint sets. -/
def layerValue? (overrides : Overrides) (b : Breakpoint) (p : Property) : Option p.Value :=
  (overrides.get b).bind (·.get p)

/-- A layer holds no NaN exactly if it sets none for any property. -/
theorem hasNoNaN_layer_iff {overrides : Overrides} {b : Breakpoint} :
    (∀ layer, overrides.get b = some layer → layer.HasNoNaN) ↔
      ∀ p : Property, ¬ p.IsNaN (layerValue? overrides b p) := by
  simp only [layerValue?]
  cases overrides.get b with
  | none => simp [Property.IsNaN]
  | some layer => simp only [Option.some_inj, forall_eq', Style.hasNoNaN_iff, Option.bind_some]

/-- Pruning takes away no NaN and makes up none, since a NaN repeats no value. -/
theorem isNaN_prune (base : Style) (overrides : Overrides) (t : Breakpoint) (p : Property) :
    p.IsNaN (layerValue? (prune base overrides) t p) ↔ p.IsNaN (layerValue? overrides t p) := by
  simp only [Property.IsNaN, layerValue?, Option.bind_eq_some_iff]
  cases hw : t.wider? with
  | none => rw [Breakpoint.eq_monitor_of_wider? hw, get_prune_monitor]
  | some w =>
    simp only [get_prune base overrides hw, prunedLayer_eq_some_iff]
    constructor
    · rintro ⟨x, ⟨layer, ⟨-, stored, hstored, rfl⟩, hx⟩, hnan⟩
      exact ⟨x, ⟨stored, hstored, (Style.get_diff_eq_some hx).1⟩, hnan⟩
    · rintro ⟨x, ⟨stored, hstored, hx⟩, hnan⟩
      have hkept : (stored.diff (resolve base (prune base overrides) w)).get p = some x := by
        rw [Style.get_diff, hx]
        cases (resolve base (prune base overrides) w).get p with
        | none => rfl
        | some y =>
          simp only [Property.sameValue_eq_false_of_nan hnan y, Bool.false_eq_true, if_false]
      exact ⟨x, ⟨_, ⟨Style.isEmpty_eq_false_of_get hkept, stored, hstored, rfl⟩, hkept⟩, hnan⟩

/-- After an update, a layer below the base holds a NaN exactly if the update puts it there, or does
not set the property there and the layer held one before. -/
theorem isNaN_update (base : Style) (overrides : Overrides) (b : Breakpoint) (style : Style)
    (p : Property) (ht : t ≠ .monitor) :
    p.IsNaN (layerValue? (update base overrides b style).2 t p) ↔
      p.IsNaN ((if b = t then style.get p else none).or (layerValue? overrides t p)) := by
  rw [update_eq_prune_written, isNaN_prune]
  by_cases hb : b = t
  · subst hb
    cases hw : b.wider? with
    | none => exact absurd (Breakpoint.eq_monitor_of_wider? hw) ht
    | some w => rw [layerValue?, get_written_self hw, if_pos rfl, layerValue?]
  · rw [layerValue?, get_written_of_ne (Ne.symm hb), if_neg hb, Option.none_or, layerValue?]

end Cascade

end Sitework
