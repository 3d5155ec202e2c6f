import Sitework.Proofs.Stylesheet.Agreement

/-!
# Narrower viewports declare no less

On the way from wide to narrow, a style in force only gains values; completing its groups and
showing the position that a stacking order implies only add to it. So whatever is declared at a
breakpoint is declared at each narrower one, also where it takes several values to render. The
blocks of a page rely on this: a block may replace a declaration or add one, and it has no way to
take one back.
-/

namespace Sitework

namespace Element

/-- The base rule and the blocks down to a breakpoint, laid over each other, declare the properties
that the element declares there. -/
theorem isSome_get?_exportedAt (e : Element) (b : Breakpoint) (property : String) :
    ((e.exportedAt b).get? property).isSome = ((e.declarationsAt b none).get? property).isSome := by
  induction b using Breakpoint.widestFirst with
  | base => rfl
  | step b w hw ih =>
    rw [get?_exportedAt_of_wider hw, Option.isSome_or, ih]
    cases hlayer : e.responsive.get b with
    | none =>
      rw [declarationsAt_of_wider hw hlayer, changesAt, hlayer]
      rfl
    | some layer =>
      have hkept : ((e.declarationsAt w none).get? property).isSome →
          ((e.declarationsAt b none).get? property).isSome :=
        isSome_get?_declarationsAt (Breakpoint.contains_of_wider hw)
      rw [get?_changesAt (by rw [hlayer]; rfl)]
      split
      · next hbase =>
        -- nothing changes here, and what is as at the base was declared at the wider one before
        rw [Option.isSome_none, Bool.false_or, Bool.eq_iff_iff]
        refine ⟨hkept, fun h => ?_⟩
        rw [hbase] at h
        exact isSome_get?_declarationsAt w.monitor_contains h
      · rw [Bool.or_eq_left_iff_imp]
        exact hkept

/-- Whatever is declared at a breakpoint is declared at each one that it reaches down to; and the
rules that apply there, laid over each other, declare the same properties as the element. -/
theorem keys_declarationsAt_subset (e : Element) {a b : Breakpoint} (h : a.contains b = true) :
    (e.declarationsAt a none).keys ⊆ (e.declarationsAt b none).keys ∧
      ∀ property, property ∈ (e.exportedAt b).keys ↔ property ∈ (e.declarationsAt b none).keys := by
  constructor
  · intro property hproperty
    rw [← OrderedMap.contains_iff, OrderedMap.contains] at hproperty ⊢
    exact isSome_get?_declarationsAt h hproperty
  · intro property
    rw [← OrderedMap.contains_iff, ← OrderedMap.contains_iff, OrderedMap.contains,
      OrderedMap.contains, isSome_get?_exportedAt]

/-- A turned box with two columns and a stacking order on tablets, and a position of its own on
smartphones. -/
def tile : Element :=
  { Element.new "tile" .grid with
    style := { rotate := some (.ofInt 45) }
    responsive :=
      { tablet := some { columns := some 2, zIndex := some 1 }
        smartphone := some { position := some .absolute } } }

theorem keys_declarationsAt_tile : Breakpoint.tablet.contains .smartphone = true ∧
    (tile.declarationsAt .tablet none).keys =
      ["grid-template-columns", "transform", "z-index", "position"] ∧
    (tile.declarationsAt .tablet none).keys ⊆ (tile.declarationsAt .smartphone none).keys :=
  ⟨rfl, by decide +kernel, (tile.keys_declarationsAt_subset rfl).1⟩

end Element

end Sitework
