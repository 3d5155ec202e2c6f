import Sitework.Proofs.Style.Accepted

/-!
# Minimal layers

A layer is minimal if it sets something and repeats nothing that is in force at the next wider
breakpoint. Pruning decides about the layers from the widest to the narrowest, each against what
the layers that were decided before leave in force, so afterwards all of them are minimal; and
layers that are minimal stay as they are. Pruning makes up no value: it only takes some away.
-/

namespace Sitework

namespace Style

/-- What a difference sets is what the style sets and the base does not have. -/
theorem get_diff_eq_some {s base : Style} {p : Property} {x : p.Value}
    (h : (s.diff base).get p = some x) :
    s.get p = some x ∧ ∀ y, base.get p = some y → p.sameValue x y = false := by
  rw [get_diff] at h
  cases hs : s.get p with
  | none => simp [hs] at h
  | some x' =>
    cases hbase : base.get p with
    | none =>
      rw [hs, hbase] at h
      exact ⟨h, nofun⟩
    | some y =>
      simp only [hs, hbase] at h
      split at h
      · cases h
      · next hdiffers =>
        refine ⟨h, ?_⟩
        rintro z ⟨⟩
        rw [← Option.some_inj.1 h]
        exact Bool.eq_false_iff.2 hdiffers

/-- A difference has no value of the base left to take out. -/
@[simp] theorem diff_diff (s base : Style) : (s.diff base).diff base = s.diff base := by
  apply ext_get
  intro p
  cases hget : (s.diff base).get p with
  | none => rw [get_diff, hget]
  | some x =>
    have hdiffers := (get_diff_eq_some hget).2
    rw [get_diff, hget]
    cases hbase : base.get p with
    | none => rfl
    | some y => simp [hdiffers y hbase]

/-- A difference that has the values of the style is the style. -/
theorem diff_eq_of_sameValues {s base : Style} (h : ((s.diff base).sameValues s) = true) :
    s.diff base = s := by
  apply ext_get
  intro p
  have hsame : (s.diff base).sameAt s p = true := List.all_eq_true.1 h p p.mem_all
  cases hget : (s.diff base).get p with
  | some x => exact (get_diff_eq_some hget).1.symm
  | none =>
    rw [sameAt, hget] at hsame
    cases hs : s.get p with
    | none => rfl
    | some y => rw [hs] at hsame; cases hsame

theorem nonempty_eq_some_iff {s t : Style} : s.nonempty = some t ↔ s.isEmpty = false ∧ s = t := by
  rw [nonempty]
  cases s.isEmpty <;> simp

/-- A style that sets a property is not empty. -/
theorem isEmpty_eq_false_of_get {s : Style} {p : Property} {x : p.Value} (h : s.get p = some x) :
    s.isEmpty = false := by
  rw [Bool.eq_false_iff]
  intro hempty
  rw [eq_empty_of_isEmpty hempty, get_empty] at h
  cases h

/-- A difference is the whole style if the style repeats no value of the base. -/
theorem diff_eq_self_iff {s base : Style} : s.diff base = s ↔
    ∀ p x, s.get p = some x → ∀ y, base.get p = some y → p.sameValue x y = false := by
  constructor
  · intro h p x hx
    rw [← h] at hx
    exact (get_diff_eq_some hx).2
  · intro h
    apply ext_get
    intro p
    rw [get_diff]
    cases hs : s.get p with
    | none => rfl
    | some x =>
      cases hbase : base.get p with
      | none => rfl
      | some y => simp [h p x hs y hbase]

/-- A difference has values of the style only. -/
theorem Meets.diff {P : (p : Property) → p.Value → Prop} {s : Style} (h : s.Meets P)
    (base : Style) : (s.diff base).Meets P :=
  fun p x hx => h p x (get_diff_eq_some hx).1

end Style

namespace Cascade

variable {base : Style} {overrides : Overrides}

/-- Every layer sets something, and nothing that is in force at the next wider breakpoint. -/
def IsMinimal (base : Style) (overrides : Overrides) : Prop :=
  ∀ b w, b.wider? = some w → ∀ layer, overrides.get b = some layer →
    layer.isEmpty = false ∧ layer.diff (resolve base overrides w) = layer

/-- What pruning makes of a layer, on top of an inherited style. -/
def prunedLayer (own : Option Style) (inherited : Style) : Option Style :=
  own.bind fun layer => (layer.diff inherited).nonempty

/-- Pruning one layer decides about that layer only. -/
theorem get_pruneAt (base : Style) (overrides : Overrides) (b c : Breakpoint) :
    (pruneAt base overrides b).get c =
      if c = b then prunedLayer (overrides.get b) (inherited base overrides b)
      else overrides.get c := by
  rw [pruneAt]
  cases hget : overrides.get b with
  | none =>
    change overrides.get c = if c = b then none else overrides.get c
    split
    · next hc => rw [hc, hget]
    · rfl
  | some layer => exact Layers.get_set _ _ _ _

/-- Pruning leaves what is stored for the base. -/
theorem get_prune_monitor (base : Style) (overrides : Overrides) :
    (prune base overrides).get .monitor = overrides.get .monitor :=
  get_foldl_responsive_monitor (fun _ => prunedLayer) (get_pruneAt base) overrides

/-- Of a layer, pruning leaves what is not in force at the next wider breakpoint. -/
theorem get_prune (base : Style) (overrides : Overrides) {b w : Breakpoint}
    (h : b.wider? = some w) :
    (prune base overrides).get b =
      prunedLayer (overrides.get b) (resolve base (prune base overrides) w) :=
  get_foldl_responsive (fun _ => prunedLayer) (get_pruneAt base) overrides h

/-- Pruning makes up no layer. -/
theorem get_prune_of_none {b : Breakpoint} (h : overrides.get b = none) :
    (prune base overrides).get b = none := by
  cases hw : b.wider? with
  | none =>
    obtain rfl := Breakpoint.eq_monitor_of_wider? hw
    rw [get_prune_monitor, h]
  | some w => rw [get_prune base overrides hw, h, prunedLayer, Option.bind_none]

/-- A pruned layer is the difference of the stored one, if that sets anything. -/
theorem prunedLayer_eq_some_iff {own : Option Style} {inherited layer : Style} :
    prunedLayer own inherited = some layer ↔
      layer.isEmpty = false ∧ ∃ stored, own = some stored ∧ stored.diff inherited = layer := by
  simp only [prunedLayer, Option.bind_eq_some_iff, Style.nonempty_eq_some_iff]
  constructor
  · rintro ⟨stored, hstored, hempty, rfl⟩
    exact ⟨hempty, stored, hstored, rfl⟩
  · rintro ⟨hempty, stored, hstored, rfl⟩
    exact ⟨stored, hstored, hempty, rfl⟩

/-- Pruned layers are minimal. -/
theorem isMinimal_prune (base : Style) (overrides : Overrides) :
    IsMinimal base (prune base overrides) := by
  intro b w h layer hlayer
  rw [get_prune base overrides h, prunedLayer_eq_some_iff] at hlayer
  obtain ⟨hempty, stored, -, rfl⟩ := hlayer
  exact ⟨hempty, Style.diff_diff _ _⟩

/-- Minimal layers are what pruning leaves of them. -/
theorem prune_eq_iff : prune base overrides = overrides ↔ IsMinimal base overrides := by
  constructor
  · intro h
    rw [← h]
    exact isMinimal_prune base overrides
  · intro hminimal
    -- from the widest breakpoint down, what is in force stays the same, and then so does the layer
    have hboth (b : Breakpoint) : (prune base overrides).get b = overrides.get b ∧
        resolve base (prune base overrides) b = resolve base overrides b := by
      induction b using Breakpoint.widestFirst with
      | base => exact ⟨get_prune_monitor base overrides, rfl⟩
      | step b w h ih =>
        have hlayer : (prune base overrides).get b = overrides.get b := by
          rw [get_prune base overrides h, ih.2]
          cases hget : overrides.get b with
          | none => rfl
          | some layer =>
            obtain ⟨hempty, hdiff⟩ := hminimal b w h layer hget
            exact prunedLayer_eq_some_iff.2 ⟨hempty, layer, rfl, hdiff⟩
        refine ⟨hlayer, ?_⟩
        rw [resolve_eq_cover _ _ h, resolve_eq_cover _ _ h, hlayer, ih.2]
    exact Layers.ext_get fun b => (hboth b).1

/-- Pruning once is enough. -/
theorem prune_prune (base : Style) (overrides : Overrides) :
    prune base (prune base overrides) = prune base overrides :=
  prune_eq_iff.2 (isMinimal_prune base overrides)

/-- After an update of the style the layers are minimal. -/
theorem isMinimal_update (base : Style) (overrides : Overrides) (b : Breakpoint)
    (style : Style) : IsMinimal (update base overrides b style).1
      (update base overrides b style).2 := by
  rw [update]
  split
  · exact isMinimal_prune _ _
  · exact isMinimal_prune _ _

/-- An update leaves a layer that is stored for the base as it is. -/
theorem get_update_monitor (base : Style) (overrides : Overrides) (b : Breakpoint)
    (style : Style) : (update base overrides b style).2.get .monitor = overrides.get .monitor := by
  rw [update]
  split
  · exact get_prune_monitor _ _
  · next hb =>
    rw [get_prune_monitor, Layers.get_set, if_neg]
    rintro rfl
    exact hb rfl

/-- A layer at a breakpoint sets something, and nothing that is in force there without it. -/
def IsMinimalAt (base : Style) (overrides : Overrides) (b : Breakpoint) : Prop :=
  ∀ layer, overrides.get b = some layer → layer.isEmpty = false ∧
    ∀ p x, layer.get p = some x →
      ∀ y, (inherited base overrides b).get p = some y → p.sameValue x y = false

/-- Minimal layers are those that are minimal at every breakpoint below the base. -/
theorem isMinimal_iff :
    IsMinimal base overrides ↔ ∀ b, b ≠ .monitor → IsMinimalAt base overrides b := by
  constructor
  · intro h b hb layer hlayer
    cases hw : b.wider? with
    | none => exact absurd (Breakpoint.eq_monitor_of_wider? hw) hb
    | some w =>
      obtain ⟨hempty, hdiff⟩ := h b w hw layer hlayer
      rw [inherited_eq_resolve base overrides hw]
      exact ⟨hempty, Style.diff_eq_self_iff.1 hdiff⟩
  · intro h b w hw layer hlayer
    obtain ⟨hempty, hdiffers⟩ := h b (Breakpoint.ne_monitor_of_wider? hw) layer hlayer
    rw [inherited_eq_resolve base overrides hw] at hdiffers
    exact ⟨hempty, Style.diff_eq_self_iff.2 hdiffers⟩

/-- Whether layers are minimal depends on the layers below the base only. -/
theorem IsMinimal.congr {other : Overrides} (h : IsMinimal base overrides)
    (hlayers : ∀ b, b ≠ .monitor → overrides.get b = other.get b) : IsMinimal base other := by
  intro b w hw layer hlayer
  rw [← hlayers b (Breakpoint.ne_monitor_of_wider? hw)] at hlayer
  rw [← resolve_congr base hlayers w]
  exact h b w hw layer hlayer

section Meets

variable {P : (p : Property) → p.Value → Prop}

/-- Pruned layers hold values of the layers. -/
theorem meets_prune (h : ∀ b layer, overrides.get b = some layer → layer.Meets P) :
    ∀ b layer, (prune base overrides).get b = some layer → layer.Meets P := by
  intro b layer hlayer
  cases hw : b.wider? with
  | none =>
    rw [Breakpoint.eq_monitor_of_wider? hw, get_prune_monitor] at hlayer
    exact h _ _ hlayer
  | some w =>
    rw [get_prune base overrides hw, prunedLayer_eq_some_iff] at hlayer
    obtain ⟨-, stored, hstored, rfl⟩ := hlayer
    exact (h b stored hstored).diff _

/-- An updated style and its layers hold values that were there before or that come with the
update. -/
theorem meets_update (hbase : base.Meets P)
    (hlayers : ∀ b layer, overrides.get b = some layer → layer.Meets P) (b : Breakpoint)
    {style : Style} (hstyle : style.Meets P) :
    (update base overrides b style).1.Meets P ∧
      ∀ c layer, (update base overrides b style).2.get c = some layer → layer.Meets P := by
  rw [update]
  split
  · exact ⟨hbase.merge hstyle, meets_prune hlayers⟩
  · refine ⟨hbase, meets_prune fun c layer hlayer => ?_⟩
    rw [Layers.get_set] at hlayer
    split at hlayer
    · obtain rfl := Option.some_inj.1 hlayer
      refine Style.Meets.merge ?_ hstyle
      cases hget : overrides.get b with
      | none => exact Style.Meets.empty
      | some stored => exact hlayers b stored hget
    · exact hlayers c layer hlayer

end Meets

end Cascade

end Sitework
