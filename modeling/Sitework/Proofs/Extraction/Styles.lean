import Sitework.Extraction
import Sitework.Proofs.Style.Completion

/-!
# Styles rebuilt from a node

The layers of a node are read widest first, each as a difference from what is in force so far. So
the rebuilt style is known one breakpoint at a time: at each one that the node has declarations
for, it is what is in force at the next wider one, with the difference on it.
-/

namespace Sitework

namespace Style

/-- The style without the position that its stacking order implies, unless a position is
inherited. -/
def rebased (s inherited : Style) : Style :=
  if inherited.position.isNone then s.withoutImpliedPosition else s

/-- Only the position depends on what is inherited. -/
theorem get_rebased_of_ne (s inherited : Style) {p : Property} (h : p ≠ .position) :
    (s.rebased inherited).get p = s.get p := by
  rw [rebased, withoutImpliedPosition_eq]
  split
  · exact get_withPosition_of_ne _ _ h
  · rfl

/-- Where no position is inherited, an implied one is dropped. -/
theorem rebased_of_none (s : Style) {inherited : Style} (h : inherited.position = none) :
    s.rebased inherited = s.withoutImpliedPosition := by
  rw [rebased, h]
  rfl

/-- Where one is inherited, it stays. -/
theorem rebased_of_ne_none (s : Style) {inherited : Style} (h : inherited.position ≠ none) :
    s.rebased inherited = s := by
  rw [rebased, if_neg (by simpa using h)]

/-- A settled style stays settled. -/
theorem IsSettled.rebased {s : Style} (h : s.IsSettled) (inherited : Style) :
    (s.rebased inherited).IsSettled := by
  rw [Style.rebased, withoutImpliedPosition_eq]
  split
  · exact h.withPosition _
  · exact h

/-- Settled values on settled ones are settled, also where equal values are left out. -/
theorem IsSettled.merge_diff {s base : Style} (hs : s.IsSettled) (hbase : base.IsSettled) :
    (base.merge (s.diff base)).IsSettled where
  plain p x hx := by
    rw [get_merge, get_diff, Option.or_eq_some_iff] at hx
    rcases hx with hx | ⟨-, hx⟩
    · split at hx
      · next y z hy hz =>
        split at hx
        · exact absurd hx (Option.some_ne_none x).symm
        · exact hs.plain p x (hy.trans hx)
      · exact hs.plain p x hx
    · exact hbase.plain p x hx
  whole p q h := by
    rw [isSome_get_merge_diff, isSome_get_merge_diff, hs.whole p q h, hbase.whole p q h]

/-- A settled style renders the same when its groups are completed, also its position. -/
theorem IsSettled.render?_completed_shown {s : Style} (h : s.IsSettled) (d : CssProperty) :
    d.render? s.completed.shown = d.render? s.shown := by
  by_cases hd : d = .position
  · subst hd
    have hz : s.completed.zIndex = s.zIndex :=
      get_completed_of_owner_ne s (p := .zIndex) nofun nofun
    have hposition : s.completed.position = s.position :=
      get_completed_of_owner_ne s (p := .position) nofun nofun
    refine CssProperty.render?_congr fun p hp => ?_
    obtain rfl : p = .position := CssProperty.eq_of_rendersAlone rfl hp
    change s.completed.shown.position = s.shown.position
    rw [position_shown, position_shown, hz, hposition]
  · rw [render?_shown_of_ne _ hd, render?_shown_of_ne _ hd, h.render?_completed]

/-- A settled style is read back from its declarations, the groups completed, with the position
that it shows. -/
theorem IsSettled.absorbed_completed {s : Style} (h : s.IsSettled) :
    absorbed s.completed.declarations = s.shown := by
  rw [absorbed_declarations]
  refine ext_get fun p => ?_
  rw [get_settle, h.render?_completed_shown, ← get_settle, h.shown.settle_eq]

/-- Leaving out the implied position and showing it again does not depend on the stacking order
itself. -/
private theorem position_shown_withoutImplied {s t : Style}
    (hz : t.zIndex.isSome = s.zIndex.isSome)
    (hposition : t.position = s.withoutImpliedPosition.position) :
    t.shown.withoutImpliedPosition.position = s.withoutImpliedPosition.position := by
  rw [position_withoutImpliedPosition, zIndex_shown, position_shown, hposition,
    position_withoutImpliedPosition]
  cases hs : s.zIndex with
  | none =>
    rw [hs, Option.isSome_none, Option.isSome_eq_false_iff, Option.isNone_iff_eq_none] at hz
    rw [hz]
  | some z =>
    rw [hs, Option.isSome_some, Option.isSome_iff_exists] at hz
    obtain ⟨z', hz'⟩ := hz
    rw [hz']
    cases s.position with
    | none => rfl
    | some position => cases position <;> rfl

/-- Without an inherited position, what the stacking order of a merged style implies is left out
again. -/
private theorem position_rebased_merged_of_none {s inherited merged : Style}
    (hmerged : inherited.merge ((s.rebased inherited).diff inherited) = merged)
    (hz : inherited.zIndex.isSome = true → s.zIndex.isSome = true)
    (hinherited : inherited.position = none) :
    (merged.shown.rebased inherited).position = merged.position := by
  have hstacked : merged.zIndex.isSome = s.zIndex.isSome := by
    have h := isSome_get_merge_diff (s.rebased inherited) inherited .zIndex
    rw [hmerged, get_rebased_of_ne _ _ (show Property.zIndex ≠ .position from nofun)] at h
    change merged.zIndex.isSome = (s.zIndex.isSome || inherited.zIndex.isSome) at h
    rw [h, Bool.or_eq_left_iff_imp]
    exact hz
  have hposition : merged.position = s.withoutImpliedPosition.position := by
    have hnone : inherited.get .position = none := hinherited
    have h : (inherited.merge ((s.rebased inherited).diff inherited)).get .position = _ :=
      get_merge ..
    rwa [hmerged, hnone, Option.or_none, get_diff_of_none hnone, rebased_of_none s hinherited] at h
  rw [rebased_of_none _ hinherited, position_shown_withoutImplied hstacked hposition, hposition]

/-- An inherited position keeps the position of a merged style from being implied. -/
private theorem position_rebased_merged_of_ne_none {s inherited merged : Style}
    (hmerged : inherited.merge ((s.rebased inherited).diff inherited) = merged)
    (hinherited : inherited.position ≠ none) :
    (merged.shown.rebased inherited).position = merged.position := by
  have hset : merged.position ≠ none := by
    have h := isSome_get_merge_diff (s.rebased inherited) inherited .position
    rw [hmerged] at h
    change merged.position.isSome = (_ || inherited.position.isSome) at h
    rw [← Option.isSome_iff_ne_none, h, Option.isSome_iff_ne_none.2 hinherited, Bool.or_true]
  rw [rebased_of_ne_none _ hinherited, position_shown_of_ne_none hset]

/-- A difference that is put on what it was taken from is read back from it, unless a stacking order
comes in that implies a position. -/
theorem rebased_shown_diff {s inherited : Style} (hnumbers : inherited.HasNoNaN)
    (hz : inherited.zIndex.isSome = true → s.zIndex.isSome = true) :
    ((inherited.merge ((s.rebased inherited).diff inherited)).shown.rebased inherited).diff
      inherited = (s.rebased inherited).diff inherited := by
  obtain ⟨merged, hmerged⟩ : ∃ merged,
      inherited.merge ((s.rebased inherited).diff inherited) = merged := ⟨_, rfl⟩
  have hsame : merged.shown.rebased inherited = merged := by
    refine ext_get fun p => ?_
    by_cases hp : p = .position
    · subst hp
      by_cases hinherited : inherited.position = none
      · exact position_rebased_merged_of_none hmerged hz hinherited
      · exact position_rebased_merged_of_ne_none hmerged hinherited
    · rw [get_rebased_of_ne _ _ hp, get_shown_of_ne _ hp]
  rw [hmerged, hsame, ← hmerged, diff_merge_diff _ hnumbers]

end Style

namespace Extraction

/-- What a node's layer adds to what is in force without it. -/
def addition (inherited : Style) (declarations : Declarations) : Style :=
  ((Style.absorbed declarations).rebased inherited).diff inherited

/-- The style of a node at a breakpoint. -/
def styleAt (n : MarkupNode) (b : Breakpoint) : Style :=
  Cascade.resolve (baseStyle n) (overrides n) b

/-- What becomes of a node's layer that was read so far, on top of an inherited style: it is read
from the declarations, if there are any and they add something. -/
def readLayer (n : MarkupNode) (b : Breakpoint) (own : Option Style) (inherited : Style) :
    Option Style :=
  match n.layers.get b with
  | none => own
  | some declarations => (addition inherited declarations).nonempty.or own

/-- Reading one more layer decides about that layer only. -/
theorem get_addLayer (base : Style) (n : MarkupNode) (overrides : Overrides) (b c : Breakpoint) :
    (addLayer base n overrides b).get c =
      if c = b then readLayer n b (overrides.get b) (Cascade.inherited base overrides b)
      else overrides.get c := by
  have hlayer (declarations : Declarations) (inherited : Style) :
      (Style.ofDeclarationsOver declarations inherited.position).diff inherited =
        addition inherited declarations := rfl
  have hkeep : overrides.get c = if c = b then overrides.get b else overrides.get c := by
    split
    · next hc => rw [hc]
    · rfl
  rw [addLayer, readLayer]
  cases n.layers.get b with
  | none => exact hkeep
  | some declarations =>
    simp only [hlayer, Style.nonempty]
    by_cases hempty :
        (addition (Cascade.inherited base overrides b) declarations).isEmpty = true
    · rw [if_pos hempty, if_pos hempty, Option.none_or]
      exact hkeep
    · rw [if_neg hempty, if_neg hempty, Layers.get_set, Option.some_or]

/-- The base has no layer. -/
theorem get_overrides_monitor (n : MarkupNode) : (overrides n).get .monitor = none :=
  (Cascade.get_foldl_responsive_monitor (readLayer n) (get_addLayer (baseStyle n) n) _).trans
    (Layers.get_empty _)

/-- The layer of a node at a breakpoint, on what is in force at the next wider one. -/
theorem get_overrides (n : MarkupNode) {b w : Breakpoint} (h : b.wider? = some w) :
    (overrides n).get b =
      (n.layers.get b).bind fun declarations => (addition (styleAt n w) declarations).nonempty := by
  have hread := Cascade.get_foldl_responsive (readLayer n) (get_addLayer (baseStyle n) n) .empty h
  rw [Layers.get_empty, readLayer] at hread
  rw [overrides, hread]
  cases n.layers.get b with
  | none => rfl
  | some declarations => exact Option.or_none

/-- At each breakpoint a node's layer is put on what is in force at the next wider one. -/
theorem styleAt_eq (n : MarkupNode) {b w : Breakpoint} (h : b.wider? = some w) :
    styleAt n b =
      match n.layers.get b with
      | none => styleAt n w
      | some declarations => (styleAt n w).merge (addition (styleAt n w) declarations) := by
  rw [styleAt, Cascade.resolve_eq_cover _ _ h, get_overrides n h]
  cases n.layers.get b with
  | none => rfl
  | some declarations => rw [Option.bind_some, Cascade.cover_nonempty]; rfl

end Extraction

end Sitework
