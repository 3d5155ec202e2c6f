import Sitework.Proofs.Extraction.Styles

/-!
# Extracted styles are stable

The style and the layers that are extracted from the node of an element depend on the element only,
and extracting them once more changes nothing: the base is canonical, and each layer that is put on
what it inherits reads back as the same difference.
-/

namespace Sitework

namespace Element

/-- The element with the styles that are extracted from its node. -/
def restyled (e : Element) : Element :=
  let n := Compilation.nodeOf OrderedMap.empty .monitor e
  { e with style := Extraction.baseStyle n, responsive := Extraction.overrides n }

/-- What the declarations of an element at a breakpoint contribute. -/
def readAt (e : Element) (b : Breakpoint) : Style :=
  Style.absorbed (e.declarationsAt b none)

/-- What is read for an element is settled. -/
theorem isSettled_readAt (e : Element) (b : Breakpoint) : (e.readAt b).IsSettled := by
  rw [readAt, declarationsAt_none, Style.absorbed_declarations]
  exact Style.isSettled_settle _

end Element

namespace Extraction

/-- A node has the declarations at the base and wherever its element has a layer. -/
theorem get_layers (e : Element) (b : Breakpoint) :
    (Compilation.layers e).get b =
      if b.isBase || (e.responsive.get b).isSome then some (e.declarationsAt b none) else none :=
  Layers.get_ofFunction _ b

/-- A node has a layer at a breakpoint below the base if the element has. -/
theorem get_layers_of_wider (e : Element) {b w : Breakpoint} (h : b.wider? = some w) :
    (Compilation.layers e).get b =
      if (e.responsive.get b).isSome then some (e.declarationsAt b none) else none := by
  have hb : b.isBase = false := by
    cases b with
    | monitor => cases h
    | _ => rfl
  rw [get_layers, hb, Bool.false_or]

/-- The base style that is extracted from a node is the one that was read for the element. -/
theorem baseStyle_nodeOf (cache : DeclarationCache) (b : Breakpoint) (e : Element) :
    baseStyle (Compilation.nodeOf cache b e) = e.restyled.style := (rfl)

/-- So are its layers. -/
theorem overrides_nodeOf (cache : DeclarationCache) (b : Breakpoint) (e : Element) :
    overrides (Compilation.nodeOf cache b e) = e.restyled.responsive := (rfl)

end Extraction

namespace Element

open Extraction

/-- At the base, the style in force is the one that is read there without an implied position. -/
theorem resolvedStyle_restyled_monitor (e : Element) :
    e.restyled.resolvedStyle .monitor = (e.readAt .monitor).withoutImpliedPosition := (rfl)

/-- At each breakpoint with a layer, the extracted style is what is in force at the next wider one
with what the declarations add to it. -/
theorem resolvedStyle_restyled (e : Element) {b w : Breakpoint} (h : b.wider? = some w) :
    e.restyled.resolvedStyle b =
      if (e.responsive.get b).isSome then
        (e.restyled.resolvedStyle w).merge
          (((e.readAt b).rebased (e.restyled.resolvedStyle w)).diff (e.restyled.resolvedStyle w))
      else e.restyled.resolvedStyle w := by
  have hstep := styleAt_eq (Compilation.nodeOf OrderedMap.empty .monitor e) h
  rw [show (Compilation.nodeOf OrderedMap.empty .monitor e).layers.get b = _ from
    get_layers_of_wider e h] at hstep
  cases hset : (e.responsive.get b).isSome with
  | true =>
    rw [hset] at hstep
    exact hstep
  | false =>
    rw [hset] at hstep
    exact hstep

/-- A layer of the extracted element is what the declarations add, if that is anything. -/
theorem get_responsive_restyled (e : Element) {b w : Breakpoint} (h : b.wider? = some w) :
    e.restyled.responsive.get b =
      if (e.responsive.get b).isSome then
        (((e.readAt b).rebased (e.restyled.resolvedStyle w)).diff
          (e.restyled.resolvedStyle w)).nonempty
      else none := by
  have hstep := get_overrides (Compilation.nodeOf OrderedMap.empty .monitor e) h
  rw [show (Compilation.nodeOf OrderedMap.empty .monitor e).layers.get b = _ from
    get_layers_of_wider e h] at hstep
  cases hset : (e.responsive.get b).isSome with
  | true =>
    rw [hset] at hstep
    exact hstep
  | false =>
    rw [hset] at hstep
    exact hstep

/-- The extracted styles are settled. -/
theorem isSettled_resolvedStyle_restyled (e : Element) (b : Breakpoint) :
    (e.restyled.resolvedStyle b).IsSettled := by
  induction b using Breakpoint.widestFirst with
  | base =>
    rw [resolvedStyle_restyled_monitor, Style.withoutImpliedPosition_eq]
    exact (e.isSettled_readAt .monitor).withPosition _
  | step b w h ih =>
    rw [e.resolvedStyle_restyled h]
    split
    · exact ((e.isSettled_readAt b).rebased _).merge_diff ih
    · exact ih

/-- A stacking order is always read back, as zero if it must be. -/
theorem isSome_zIndex_readAt (e : Element) (b : Breakpoint) :
    (e.readAt b).zIndex.isSome = (e.resolvedStyle b).zIndex.isSome := by
  have hcontribution (value : String) :
      ((CssProperty.zIndex.contribution value).get .zIndex).isSome = true := by
    rw [CssProperty.contribution, CssProperty.read]
    cases Value.zIndex value <;> rfl
  have hcompleted : (e.resolvedStyle b).completed.zIndex = (e.resolvedStyle b).zIndex :=
    Style.get_completed_of_owner_ne _ (p := .zIndex) (fun _ h => by cases h) (by decide)
  have hget : (e.readAt b).zIndex =
      ((e.resolvedStyle b).zIndex.map fun z => toString z.toInt).bind fun value =>
        (CssProperty.zIndex.contribution value).get .zIndex := by
    rw [← hcompleted]
    have h := Style.get_absorbed (e.declarationsAt b none) .zIndex
    rwa [declarationsAt_none, Style.get?_declarations] at h
  rw [hget]
  cases (e.resolvedStyle b).zIndex with
  | none => rfl
  | some z => exact hcontribution _

/-- The extracted element has a stacking order wherever the element has one. -/
theorem isSome_zIndex_restyled (e : Element) (b : Breakpoint) :
    (e.restyled.resolvedStyle b).zIndex.isSome = (e.resolvedStyle b).zIndex.isSome := by
  induction b using Breakpoint.widestFirst with
  | base =>
    rw [resolvedStyle_restyled_monitor, Style.withoutImpliedPosition_eq, Style.zIndex_withPosition,
      isSome_zIndex_readAt]
  | step b w h ih =>
    rw [e.resolvedStyle_restyled h]
    cases hset : (e.responsive.get b).isSome with
    | true =>
      rw [if_pos rfl]
      have hmerged := Style.isSome_get_merge_diff
        ((e.readAt b).rebased (e.restyled.resolvedStyle w)) (e.restyled.resolvedStyle w) .zIndex
      rw [Style.get_rebased_of_ne _ _ (show Property.zIndex ≠ .position from nofun)] at hmerged
      refine hmerged.trans ?_
      change ((e.readAt b).zIndex.isSome || (e.restyled.resolvedStyle w).zIndex.isSome) = _
      rw [ih, isSome_zIndex_readAt, Bool.or_eq_left_iff_imp]
      exact Cascade.isCoveredBy_resolve_of_wider e.style e.responsive h .zIndex
    | false =>
      rw [Option.isSome_eq_false_iff, Option.isNone_iff_eq_none] at hset
      have hsame : e.resolvedStyle b = e.resolvedStyle w := by
        rw [resolvedStyle, Cascade.resolve_eq_cover _ _ h, hset]
        rfl
      rw [if_neg Bool.false_ne_true, ih, hsame]

/-- What the extracted element declares reads as its style with the shown position. -/
theorem readAt_restyled (e : Element) (b : Breakpoint) :
    e.restyled.readAt b = (e.restyled.resolvedStyle b).shown := by
  rw [readAt, declarationsAt_none, (e.isSettled_resolvedStyle_restyled b).absorbed_completed]

/-- Extracting once more gives the same base style. -/
theorem style_restyled_restyled (e : Element) :
    e.restyled.restyled.style = e.restyled.style := by
  have hbase : e.restyled.style = (e.readAt .monitor).withoutImpliedPosition := rfl
  have hread : e.restyled.readAt .monitor = e.restyled.style.shown := e.readAt_restyled .monitor
  have hcanonical : e.restyled.style.IsCanonical := by
    rw [hbase]
    exact (e.isSettled_readAt .monitor).isCanonical_withoutImpliedPosition
  calc e.restyled.restyled.style
      = (e.restyled.readAt .monitor).withoutImpliedPosition := rfl
    _ = e.restyled.style.shown.withoutImpliedPosition := by rw [hread]
    _ = e.restyled.style := hcanonical.withoutImpliedPosition_shown

/-- Extracting once more gives the same styles and the same layers. -/
theorem restyled_restyled (e : Element) : e.restyled.restyled = e.restyled := by
  have hlayers (b : Breakpoint) :
      e.restyled.restyled.resolvedStyle b = e.restyled.resolvedStyle b ∧
        e.restyled.restyled.responsive.get b = e.restyled.responsive.get b := by
    induction b using Breakpoint.widestFirst with
    | base =>
      refine ⟨e.style_restyled_restyled, ?_⟩
      exact (get_overrides_monitor _).trans (get_overrides_monitor _).symm
    | step b w h ih =>
      have hget : e.restyled.restyled.responsive.get b = e.restyled.responsive.get b := by
        rw [e.restyled.get_responsive_restyled h, ih.1, e.readAt_restyled,
          e.resolvedStyle_restyled h, e.get_responsive_restyled h]
        cases hset : (e.responsive.get b).isSome with
        | false => rfl
        | true =>
          have hstacked : (e.restyled.resolvedStyle w).zIndex.isSome = true →
              (e.readAt b).zIndex.isSome = true := by
            rw [isSome_zIndex_restyled, isSome_zIndex_readAt]
            exact Cascade.isCoveredBy_resolve_of_wider e.style e.responsive h .zIndex
          rw [if_pos rfl, if_pos rfl,
            Style.rebased_shown_diff (e.isSettled_resolvedStyle_restyled w).hasNoNaN hstacked]
          exact Style.ite_isSome_nonempty _
      refine ⟨?_, hget⟩
      rw [resolvedStyle, Cascade.resolve_eq_cover _ _ h, hget, resolvedStyle,
        Cascade.resolve_eq_cover _ _ h]
      exact congrArg (Cascade.cover · _) ih.1
  have hresponsive : e.restyled.restyled.responsive = e.restyled.responsive :=
    Layers.ext_get fun b => (hlayers b).2
  calc e.restyled.restyled
      = { e with style := e.restyled.restyled.style,
                 responsive := e.restyled.restyled.responsive } := rfl
    _ = { e with style := e.restyled.style, responsive := e.restyled.responsive } := by
      rw [hresponsive, e.style_restyled_restyled]
    _ = e.restyled := rfl

end Element

end Sitework
