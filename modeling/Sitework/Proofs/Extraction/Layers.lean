import Sitework.Proofs.Extraction.Styles
import Sitework.Proofs.Style.Minimal
import Sitework.Proofs.Style.Sameness

/-!
# Layers rebuilt from any node

The declarations of a node need not come from an element: they may be unreadable, and the sets for
different breakpoints need not go together. Each layer is what its set has besides the style in
force at the next wider breakpoint. So the layers are minimal whatever the node declares, and on
that style each of them gives every value that is read from the set, up to the signs of zeros. No
value that is read is a NaN, which would equal nothing.
-/

namespace Sitework

namespace Style

/-- Dropping an implied position adds no value. -/
theorem get_of_get_withoutImpliedPosition {s : Style} {p : Property} {x : p.Value}
    (h : s.withoutImpliedPosition.get p = some x) : s.get p = some x := by
  rw [withoutImpliedPosition] at h
  split at h
  · by_cases hp : p = .position
    · subst hp
      cases h
    · rwa [← get_withPosition_of_ne s none hp]
  · exact h

/-- Over an inherited position all is read that is read without one, with the same value. -/
theorem get_ofDeclarationsOver_of_get_ofDeclarations {declarations : Declarations}
    (inherited : Option Position) {p : Property} {x : p.Value}
    (h : (ofDeclarations declarations).get p = some x) :
    (ofDeclarationsOver declarations inherited).get p = some x := by
  rw [ofDeclarations, ofDeclarationsOver_eq] at h
  rw [ofDeclarationsOver_eq]
  split
  · exact h
  · exact get_of_get_withoutImpliedPosition h

/-- What is set on top of a base is in force, also where a value that the base has is left out. -/
theorem exists_get_merge_diff {s : Style} {p : Property} {x : p.Value} (base : Style)
    (h : s.get p = some x) (hx : .nan ∉ p.numbers x) :
    ∃ y, (base.merge (s.diff base)).get p = some y ∧ p.sameValue y x = true := by
  have hplain : (base.merge (s.diff base)).plainAt p = some (p.plain x) := by
    rw [plainAt_merge_diff, plainAt_merge, plainAt, h, Option.map_some, Option.some_or]
  obtain ⟨y, hy, hyx⟩ := Option.map_eq_some_iff.1 hplain
  exact ⟨y, hy, p.sameValue_iff.2 ⟨hyx, hyx ▸ Property.nan_not_mem_numbers_plain.2 hx⟩⟩

/-- What is not set on top of a base is as in the base. -/
theorem get_merge_diff_of_none {s : Style} {p : Property} (base : Style) (h : s.get p = none) :
    (base.merge (s.diff base)).get p = base.get p := by
  rw [get_merge, get_diff, h, Option.none_or]

end Style

namespace Extraction

variable {n : MarkupNode} {b w : Breakpoint} {declarations : Declarations} {p : Property}

/-- The declarations of a node for a breakpoint. For the base, those that are shown stand in. -/
def declarationsFor? (n : MarkupNode) (b : Breakpoint) : Option Declarations :=
  if b.isBase then some ((n.layers.get .monitor).getD n.declarations) else n.layers.get b

/-- What is in force at a breakpoint without the node's declarations for it: nothing at the base. -/
def inheritedAt (n : MarkupNode) (b : Breakpoint) : Style :=
  if b.isBase then Style.empty else Cascade.inherited (baseStyle n) (overrides n) b

/-- What the declarations for a breakpoint set, over the position that is in force without them. -/
def readFor (n : MarkupNode) (b : Breakpoint) (declarations : Declarations) : Style :=
  Style.ofDeclarationsOver declarations (inheritedAt n b).position

/-- Below the base, the declarations at a breakpoint are those of the layer. -/
theorem declarationsFor?_of_wider (h : b.wider? = some w) :
    declarationsFor? n b = n.layers.get b := by
  cases b <;> first | rfl | cases h

/-- Below the base all is inherited that is in force at the next wider breakpoint. -/
theorem inheritedAt_of_wider (h : b.wider? = some w) : inheritedAt n b = styleAt n w := by
  rw [styleAt, ← Cascade.inherited_eq_resolve _ _ h]
  cases b <;> first | rfl | cases h

theorem readFor_eq_rebased (n : MarkupNode) (b : Breakpoint) (declarations : Declarations) :
    readFor n b declarations = (Style.absorbed declarations).rebased (inheritedAt n b) := rfl

/-- At each breakpoint what is read for it is put on what is inherited. -/
theorem styleAt_eq_merge_diff (h : declarationsFor? n b = some declarations) :
    styleAt n b = (inheritedAt n b).merge ((readFor n b declarations).diff (inheritedAt n b)) := by
  cases hw : b.wider? with
  | none =>
    obtain rfl := Breakpoint.eq_monitor_of_wider? hw
    obtain rfl := Option.some_inj.1 h
    refine Style.ext_get fun p => ?_
    rw [Style.get_merge, show inheritedAt n .monitor = Style.empty from rfl, Style.get_empty,
      Option.or_none, Style.get_diff_of_none (Style.get_empty p)]
    rfl
  | some w =>
    rw [declarationsFor?_of_wider hw] at h
    rw [styleAt_eq n hw, h, inheritedAt_of_wider hw, readFor_eq_rebased, inheritedAt_of_wider hw]
    rfl

/-- Without declarations for a breakpoint all is inherited. -/
theorem styleAt_of_none (h : declarationsFor? n b = none) : styleAt n b = inheritedAt n b := by
  cases hw : b.wider? with
  | none =>
    obtain rfl := Breakpoint.eq_monitor_of_wider? hw
    cases h
  | some w =>
    rw [declarationsFor?_of_wider hw] at h
    rw [styleAt_eq n hw, h, inheritedAt_of_wider hw]

/-- The layers of any node are minimal. -/
theorem isMinimal_overrides (n : MarkupNode) : Cascade.IsMinimal (baseStyle n) (overrides n) := by
  intro b w hw layer hlayer
  rw [get_overrides n hw, Option.bind_eq_some_iff] at hlayer
  obtain ⟨declarations, -, hlayer⟩ := hlayer
  obtain ⟨hempty, rfl⟩ := Style.nonempty_eq_some_iff.1 hlayer
  exact ⟨hempty, Style.diff_diff _ _⟩

/-- No layer of a node holds a NaN. -/
theorem hasNoNaN_of_get_overrides {layer : Style} (h : (overrides n).get b = some layer) :
    layer.HasNoNaN := by
  cases hw : b.wider? with
  | none =>
    rw [Breakpoint.eq_monitor_of_wider? hw, get_overrides_monitor] at h
    cases h
  | some w =>
    rw [get_overrides n hw, Option.bind_eq_some_iff] at h
    obtain ⟨declarations, -, hadded⟩ := h
    obtain ⟨-, rfl⟩ := Style.nonempty_eq_some_iff.1 hadded
    exact (Style.hasNoNaN_ofDeclarationsOver declarations _).diff _

/-- No layer of a node is empty, and none stands at the base. -/
theorem isEmpty_of_get_overrides {layer : Style} (h : (overrides n).get b = some layer) :
    b ≠ .monitor ∧ layer.isEmpty = false := by
  have hb : b ≠ .monitor := by
    rintro rfl
    rw [get_overrides_monitor] at h
    cases h
  refine ⟨hb, ?_⟩
  cases hw : b.wider? with
  | none => exact absurd (Breakpoint.eq_monitor_of_wider? hw) hb
  | some w => exact (isMinimal_overrides n b w hw layer h).1

/-- Whatever a node declares, its layers are left as they are by pruning, and none is empty. Where
it declares something, what is read of that is in force, up to the signs of zeros, whether an
inherited position is taken into account or not; and all else is as inherited. -/
theorem prune_overrides (n : MarkupNode) :
    Cascade.prune (baseStyle n) (overrides n) = overrides n ∧
      (∀ b layer, (overrides n).get b = some layer → b ≠ .monitor ∧ layer.isEmpty = false) ∧
      (∀ b declarations, declarationsFor? n b = some declarations → ∀ p x,
        (Style.ofDeclarations declarations).get p = some x ∨
          (readFor n b declarations).get p = some x →
        ∃ y, (Cascade.resolve (baseStyle n) (overrides n) b).get p = some y ∧
          p.sameValue y x = true) ∧
      ∀ b p, (∀ declarations, declarationsFor? n b = some declarations →
          (readFor n b declarations).get p = none) →
        (Cascade.resolve (baseStyle n) (overrides n) b).get p = (inheritedAt n b).get p := by
  refine ⟨Cascade.prune_eq_iff.2 (isMinimal_overrides n), fun b layer => isEmpty_of_get_overrides,
    ?_, ?_⟩
  · intro b declarations hdeclared p x hread
    have hover : (readFor n b declarations).get p = some x :=
      hread.elim (Style.get_ofDeclarationsOver_of_get_ofDeclarations _) id
    have hnumbers : (readFor n b declarations).HasNoNaN :=
      Style.hasNoNaN_ofDeclarationsOver declarations _
    have hexists := Style.exists_get_merge_diff (inheritedAt n b) hover (hnumbers p x hover)
    rwa [← styleAt_eq_merge_diff hdeclared] at hexists
  · intro b p hunread
    change (styleAt n b).get p = _
    cases hdeclared : declarationsFor? n b with
    | none => rw [styleAt_of_none hdeclared]
    | some declarations =>
      rw [styleAt_eq_merge_diff hdeclared,
        Style.get_merge_diff_of_none _ (hunread declarations hdeclared)]

/-- A node that leaves out tablets. Its sets repeat a position, and a width cannot be read. -/
def patch : MarkupNode :=
  { MarkupNode.new "div" .wrapper with
    declarations := .ofList [("position", "relative"), ("z-index", "2")]
    layers :=
      { laptop := some (.ofList [("position", "relative"), ("width", "wide")])
        smartphone := some (.ofList [("width", "wide"), ("display", "flex")]) } }

/-- The base has no position of its own, so the one on laptops is kept; on smartphones only the
display is new, and the width is there all the same. -/
theorem prune_overrides_patch :
    Cascade.prune (baseStyle patch) (overrides patch) = overrides patch ∧
      (∃ y, (Cascade.resolve (baseStyle patch) (overrides patch) .laptop).get .position = some y ∧
        Property.sameValue .position y Position.relative = true) ∧
      ∃ y, (Cascade.resolve (baseStyle patch) (overrides patch) .smartphone).get (.length .width) =
          some y ∧ Property.sameValue (.length .width) y Length.auto = true := by
  obtain ⟨hprune, -, hread, -⟩ := prune_overrides patch
  exact ⟨hprune, hread .laptop _ rfl .position Position.relative (.inr (by decide +kernel)),
    hread .smartphone _ rfl (.length .width) Length.auto (.inl (by decide +kernel))⟩

end Extraction

end Sitework
