import Sitework.Proofs.Style.Minimal
import Sitework.Proofs.Style.Sameness

/-!
# Pruned layers are a canonical form

What pruning leaves at a breakpoint is the difference between the style in force there and the one
in force at the next wider breakpoint. So pruning changes no style in force, and layers that give
the same styles are pruned to the same layers. Values are compared up to the signs of zeros.
-/

namespace Sitework

namespace Cascade

variable {base : Style} {overrides : Overrides} {b w : Breakpoint}

/-- What is in force holds no NaN if neither the base nor a layer below it does. -/
theorem hasNoNaN_resolve (hbase : base.HasNoNaN)
    (hlayers : ∀ b layer, b ≠ .monitor → overrides.get b = some layer → layer.HasNoNaN)
    (t : Breakpoint) : (resolve base overrides t).HasNoNaN := by
  induction t using Breakpoint.widestFirst with
  | base => exact hbase
  | step b w h ih =>
    rw [resolve_eq_cover base overrides h]
    cases hget : overrides.get b with
    | none => exact ih
    | some layer => exact ih.merge (hlayers b layer (Breakpoint.ne_monitor_of_wider? h) hget)

/-- Layers with the same values on styles with the same values give the same values. -/
theorem sameValues_cover {s t : Style} (h : s.sameValues t = true) {own other : Option Style}
    (hlayers : Style.SameLayer own other) : (cover s own).sameValues (cover t other) = true := by
  obtain ⟨hplain, hnumbers⟩ := Style.sameValues_iff.1 h
  cases hlayers with
  | none => exact h
  | some hlayer =>
    obtain ⟨hown, hownNumbers⟩ := Style.sameValues_iff.1 hlayer
    refine Style.sameValues_iff.2 ⟨fun p => ?_, hnumbers.merge hownNumbers⟩
    simp only [cover, Style.plainAt_merge, hplain p, hown p]

/-- Pruning changes no value in force, up to the signs of zeros. -/
theorem plainAt_resolve_prune (base : Style) (overrides : Overrides) (t : Breakpoint)
    (p : Property) :
    (resolve base (prune base overrides) t).plainAt p = (resolve base overrides t).plainAt p := by
  induction t using Breakpoint.widestFirst with
  | base => rfl
  | step b w h ih =>
    rw [resolve_eq_cover _ _ h, resolve_eq_cover base overrides h, get_prune base overrides h]
    cases overrides.get b with
    | none => exact ih
    | some layer =>
      calc (cover (resolve base (prune base overrides) w)
            (prunedLayer (some layer) (resolve base (prune base overrides) w))).plainAt p
          = ((resolve base (prune base overrides) w).merge
              (layer.diff (resolve base (prune base overrides) w))).plainAt p := by
            rw [prunedLayer, Option.bind_some, cover_nonempty]
        _ = (layer.plainAt p).or ((resolve base (prune base overrides) w).plainAt p) := by
            rw [Style.plainAt_merge_diff, Style.plainAt_merge]
        _ = (cover (resolve base overrides w) (some layer)).plainAt p := by
            rw [ih, cover, Style.plainAt_merge]

/-- A pruned layer with the values of the stored one is the stored one, since pruning only takes
values away. -/
theorem prune_eq_self_of_sameLayer
    (h : ∀ b, Style.SameLayer ((prune base overrides).get b) (overrides.get b)) :
    prune base overrides = overrides := by
  refine Layers.ext_get fun b => ?_
  cases hw : b.wider? with
  | none => rw [Breakpoint.eq_monitor_of_wider? hw, get_prune_monitor]
  | some w =>
    have hsame := h b
    rw [get_prune base overrides hw] at hsame ⊢
    cases hlayer : overrides.get b with
    | none => rfl
    | some layer =>
      rw [hlayer] at hsame
      cases hpruned : prunedLayer (some layer) (resolve base (prune base overrides) w) with
      | none => rw [hpruned] at hsame; cases hsame
      | some pruned =>
        rw [hpruned] at hsame
        obtain ⟨-, _, ⟨⟩, rfl⟩ := prunedLayer_eq_some_iff.1 hpruned
        cases hsame with
        | some hvalues => rw [Style.diff_eq_of_sameValues hvalues]

/-- Pruning leaves the same layers exactly if the layers below the base are minimal and none holds
a NaN, which would differ from itself. -/
theorem sameLayer_prune_self_iff :
    (∀ b, Style.SameLayer ((prune base overrides).get b) (overrides.get b)) ↔
      IsMinimal base overrides ∧ ∀ b layer, overrides.get b = some layer → layer.HasNoNaN := by
  constructor
  · intro h
    have hequal := prune_eq_self_of_sameLayer h
    refine ⟨prune_eq_iff.1 hequal, fun b layer hlayer => ?_⟩
    have hself := h b
    rw [hequal, hlayer] at hself
    cases hself with
    | some hvalues => exact Style.sameValues_self_iff.1 hvalues
  · rintro ⟨hminimal, hnumbers⟩ b
    rw [prune_eq_iff.2 hminimal]
    cases hlayer : overrides.get b with
    | none => exact .none
    | some layer => exact .some (Style.sameValues_self_iff.2 (hnumbers b layer hlayer))

section Numbers

variable (hbase : base.HasNoNaN)
  (hlayers : ∀ b layer, b ≠ .monitor → overrides.get b = some layer → layer.HasNoNaN)
include hbase

/-- The same layers give the same styles. -/
theorem sameValues_resolve_of_sameLayer {other : Overrides}
    (hsame : ∀ b, b ≠ .monitor → Style.SameLayer (overrides.get b) (other.get b))
    (t : Breakpoint) : (resolve base overrides t).sameValues (resolve base other t) = true := by
  induction t using Breakpoint.widestFirst with
  | base => exact Style.sameValues_self_iff.2 hbase
  | step b w h ih =>
    rw [resolve_eq_cover base overrides h, resolve_eq_cover base other h]
    exact sameValues_cover ih (hsame b (Breakpoint.ne_monitor_of_wider? h))

include hlayers

/-- Pruning changes no style in force. -/
theorem sameValues_resolve_prune (t : Breakpoint) :
    (resolve base (prune base overrides) t).sameValues (resolve base overrides t) = true := by
  have hplain := plainAt_resolve_prune base overrides t
  exact Style.sameValues_iff.2
    ⟨hplain, (hasNoNaN_resolve hbase hlayers t).congr fun p => (hplain p).symm⟩

end Numbers

/-- If nothing in force at the next wider breakpoint is a NaN, then what is left of a layer is what
its breakpoint adds to the wider one. -/
theorem get_prune_eq_diff (h : b.wider? = some w) (hwider : (resolve base overrides w).HasNoNaN) :
    (prune base overrides).get b =
      ((resolve base overrides b).diff (resolve base overrides w)).nonempty := by
  rw [get_prune base overrides h, resolve_eq_cover base overrides h, prunedLayer]
  cases overrides.get b with
  | none =>
    rw [cover, Style.diff_self hwider]
    rfl
  | some layer =>
    rw [cover, Style.diff_merge _ hwider, Option.bind_some,
      Style.diff_congr_right layer (plainAt_resolve_prune base overrides w)]

/-- Layers that give the same styles are pruned to the same layers. -/
theorem sameLayer_prune {other : Overrides}
    (hsame : ∀ t, (resolve base overrides t).sameValues (resolve base other t) = true)
    (hb : b ≠ .monitor) :
    Style.SameLayer ((prune base overrides).get b) ((prune base other).get b) := by
  have hplain (t : Breakpoint) := (Style.sameValues_iff.1 (hsame t)).1
  have hnumbers (t : Breakpoint) := (Style.sameValues_iff.1 (hsame t)).2
  cases hw : b.wider? with
  | none => exact absurd (Breakpoint.eq_monitor_of_wider? hw) hb
  | some w =>
    rw [get_prune_eq_diff hw (hnumbers w), get_prune_eq_diff hw ((hnumbers w).congr (hplain w)),
      Style.diff_congr_right _ (hplain w)]
    refine Style.sameLayer_nonempty (Style.sameValues_iff.2 ⟨fun p => ?_, (hnumbers b).diff _⟩)
    rw [Style.plainAt_diff, Style.plainAt_diff, Style.sameAt_congr (hplain b p) rfl, hplain b p]

/-- Pruning is a canonical form of layers, as long as neither the base nor a layer below it holds a
NaN. It changes no style in force. What it leaves of a layer below the base sets something and
repeats nothing that is in force without it, and whatever is stored at the base stays. Layers are
pruned to the same ones exactly if they give the same style at every breakpoint, so pruning once is
enough. -/
theorem isCanonical_prune (hbase : base.HasNoNaN)
    (hlayers : ∀ b layer, b ≠ .monitor → overrides.get b = some layer → layer.HasNoNaN) :
    (∀ t, (resolve base (prune base overrides) t).sameValues (resolve base overrides t) = true) ∧
    (∀ b, b ≠ .monitor → IsMinimalAt base (prune base overrides) b) ∧
    (prune base overrides).get .monitor = overrides.get .monitor ∧
    (∀ other, (∀ t, (resolve base overrides t).sameValues (resolve base other t) = true) ↔
      ∀ b, b ≠ .monitor →
        Style.SameLayer ((prune base overrides).get b) ((prune base other).get b)) ∧
    prune base (prune base overrides) = prune base overrides := by
  refine ⟨sameValues_resolve_prune hbase hlayers, isMinimal_iff.1 (isMinimal_prune _ _),
    get_prune_monitor base overrides, fun other => ⟨fun hsame b => sameLayer_prune hsame, ?_⟩,
    prune_prune base overrides⟩
  intro hsame t
  have hpruned := (Style.sameValues_iff.1 (sameValues_resolve_of_sameLayer hbase hsame t)).1
  refine Style.sameValues_iff.2 ⟨fun p => ?_, hasNoNaN_resolve hbase hlayers t⟩
  calc (resolve base overrides t).plainAt p
      = (resolve base (prune base overrides) t).plainAt p :=
        (plainAt_resolve_prune base overrides t p).symm
    _ = (resolve base (prune base other) t).plainAt p := hpruned p
    _ = (resolve base other t).plainAt p := plainAt_resolve_prune base other t p

/-- A red crate that is not turned. -/
def crate : Style := { color := some "red", rotate := some 0 }

/-- It is red on laptops too, and on tablets blue and turned by a zero with a minus sign. -/
def crateLayers : Overrides :=
  { laptop := some { color := some "red" }
    tablet := some { color := some "blue", rotate := some (.ofRatio true 0 1) } }

theorem hasNoNaN_crate : crate.HasNoNaN :=
  Style.sameValues_self_iff.1 (by decide +kernel)

theorem hasNoNaN_crateLayers (b : Breakpoint) (layer : Style) (_ : b ≠ .monitor)
    (h : crateLayers.get b = some layer) : layer.HasNoNaN := by
  have hall : crateLayers.entries.all (fun entry => entry.2.sameValues entry.2) = true := by
    decide +kernel
  exact Style.sameValues_self_iff.1
    (List.all_eq_true.1 hall (b, layer) (Layers.mem_entries.2 h))

/-- Only the blue is left of its layers, and nothing in force has changed. -/
theorem isCanonical_prune_crate :
    prune crate crateLayers = { tablet := some { color := some "blue" } } ∧
      ∀ t, (resolve crate (prune crate crateLayers) t).sameValues (resolve crate crateLayers t) =
        true :=
  ⟨by decide +kernel, (isCanonical_prune hasNoNaN_crate hasNoNaN_crateLayers).1⟩

end Cascade

end Sitework
