import Sitework.Proofs.Extraction.Normal
import Sitework.Proofs.Style.Accepted

/-!
# Extracted styles declare the same

If the styles of an element are accepted, everything that it declares is read. The rebuilt layers
differ from the original ones, but what is in force at a breakpoint shows what was read there, so
the declarations are the same up to the normal form of colors.
-/

namespace Sitework

namespace Style

/-- A difference put on what it was taken from gives the value of the style again. -/
theorem get_merge_diff {s inherited : Style} {p : Property}
    (hcover : (inherited.get p).isSome = true → (s.get p).isSome = true)
    (hsame : ∀ x y, s.get p = some x → inherited.get p = some y → p.sameValue x y = true → x = y) :
    (inherited.merge (s.diff inherited)).get p = s.get p := by
  rw [get_merge, get_diff]
  cases hs : s.get p with
  | none =>
    rw [hs] at hcover
    have hnone : inherited.get p = none :=
      Option.not_isSome_iff_eq_none.1 fun hset => Bool.false_ne_true (hcover hset)
    rw [hnone, Option.none_or]
  | some x =>
    cases hinherited : inherited.get p with
    | none => rfl
    | some y =>
      by_cases heq : p.sameValue x y = true
      · simp only [heq, if_true, Option.none_or]
        rw [hsame x y hs hinherited heq]
      · simp only [heq]
        rfl

/-- A position that is left out as implied is shown again. -/
private theorem position_shown_of_withoutImplied {s t : Style} (hshown : s.shown = s)
    (hz : t.zIndex = s.zIndex) (hposition : t.position = s.withoutImpliedPosition.position) :
    t.shown.position = s.position := by
  have hown : s.shown.position = s.position := by rw [hshown]
  rw [position_shown] at hown ⊢
  rw [hz, hposition, position_withoutImpliedPosition]
  cases hzs : s.zIndex with
  | none => rfl
  | some z =>
    rw [hzs] at hown
    cases hs : s.position with
    | none => simp [hs] at hown
    | some position => cases position <;> rfl

/-- Dropping a position that is implied adds nothing to what is shown. -/
theorem shown_withoutImpliedPosition {s : Style} (hshown : s.shown = s) :
    s.withoutImpliedPosition.shown = s := by
  refine ext_get fun p => ?_
  by_cases hp : p = .position
  · subst hp
    exact position_shown_of_withoutImplied hshown (by rw [withoutImpliedPosition_eq]; rfl) rfl
  · rw [get_shown_of_ne _ hp, withoutImpliedPosition_eq, get_withPosition_of_ne _ _ hp]

section Covered

variable {s inherited merged : Style}
  (hmerged : inherited.merge ((s.rebased inherited).diff inherited) = merged)
  (hcover : inherited.shown.IsCoveredBy s)
  (hsame : ∀ p x y, s.get p = some x → inherited.shown.get p = some y →
    p.sameValue x y = true → x = y)
include hmerged

/-- Without an inherited position, a merged style has that of the style, unless it is implied. -/
private theorem position_merged_of_none (hinherited : inherited.position = none) :
    merged.position = s.withoutImpliedPosition.position := by
  have hget : inherited.get .position = none := hinherited
  change merged.get .position = s.withoutImpliedPosition.get .position
  rw [← hmerged, get_merge, get_diff_of_none hget, rebased_of_none s hinherited, hget,
    Option.or_none]

include hcover hsame

/-- Where the inherited style and the style are as they are shown and as they are put together, the
merged style has the value of the style. -/
private theorem get_merged {p : Property} (hrebased : (s.rebased inherited).get p = s.get p)
    (hshown : inherited.shown.get p = inherited.get p) : merged.get p = s.get p := by
  rw [← hmerged, ← hrebased]
  refine get_merge_diff ?_ ?_
  · rw [hrebased, ← hshown]
    exact hcover p
  · rw [hrebased, ← hshown]
    exact hsame p

/-- The position that the merged style shows is that of the style. -/
private theorem position_shown_merged (hshown : s.shown = s) :
    merged.shown.position = s.position := by
  have hz : merged.get .zIndex = s.get .zIndex :=
    get_merged hmerged hcover hsame (get_rebased_of_ne _ _ nofun) (get_shown_of_ne _ nofun)
  by_cases hinherited : inherited.position = none
  · exact position_shown_of_withoutImplied hshown hz (position_merged_of_none hmerged hinherited)
  · -- over an inherited position every one is explicit
    have hposition : merged.get .position = s.get .position :=
      get_merged hmerged hcover hsame (by rw [rebased_of_ne_none s hinherited])
        (position_shown_of_ne_none hinherited)
    calc merged.shown.position = s.shown.position := by
          rw [position_shown, position_shown, show merged.zIndex = s.zIndex from hz,
            show merged.position = s.position from hposition]
      _ = s.position := by rw [hshown]

end Covered

/-- A style that shows its position is shown again by its difference from an inherited style that
shows no more than it. -/
theorem shown_merge_diff_rebased {s inherited : Style} (hshown : s.shown = s)
    (hcover : inherited.shown.IsCoveredBy s)
    (hsame : ∀ p x y, s.get p = some x → inherited.shown.get p = some y →
      p.sameValue x y = true → x = y) :
    (inherited.merge ((s.rebased inherited).diff inherited)).shown = s := by
  refine ext_get fun p => ?_
  by_cases hp : p = .position
  · subst hp
    exact position_shown_merged rfl hcover hsame hshown
  · rw [get_shown_of_ne _ hp]
    exact get_merged rfl hcover hsame (get_rebased_of_ne _ _ hp) (get_shown_of_ne _ hp)

end Style

namespace Element

variable {e : Element}

/-- What is read for an element is its completed style as it is shown, with its position settled. -/
theorem readAt_eq (e : Element) (b : Breakpoint) :
    e.readAt b = (e.resolvedStyle b).completed.shown.settle := by
  rw [readAt, declarationsAt_none, Style.absorbed_declarations]

/-- What is in force in the extracted element shows what was read at each breakpoint. -/
theorem shown_resolvedStyle_restyled (h : ∀ s ∈ e.styles, s.IsAccepted) (b : Breakpoint) :
    (e.restyled.resolvedStyle b).shown = e.readAt b := by
  have haccepted (b : Breakpoint) : (e.resolvedStyle b).completed.IsAccepted :=
    (isAccepted_resolvedStyle h b).completed
  have hshown (b : Breakpoint) : (e.readAt b).shown = e.readAt b := by
    rw [readAt_eq, (haccepted b).shown_settle]
  induction b using Breakpoint.widestFirst with
  | base =>
    rw [resolvedStyle_restyled_monitor]
    exact Style.shown_withoutImpliedPosition (hshown .monitor)
  | step b w hw ih =>
    rw [e.resolvedStyle_restyled hw]
    cases hset : (e.responsive.get b).isSome with
    | true =>
      have hcover : (e.resolvedStyle w).completed.shown.IsCoveredBy
          (e.resolvedStyle b).completed.shown :=
        (Cascade.isCoveredBy_resolve_of_wider e.style e.responsive hw).completed.shown
      rw [if_pos rfl]
      refine Style.shown_merge_diff_rebased (hshown b) ?_ ?_
      · intro p hp
        rw [ih, readAt_eq, (haccepted w).shown.isSome_get_settle] at hp
        rw [readAt_eq, (haccepted b).shown.isSome_get_settle]
        exact hcover.isSome_render? hp
      · intro p x y hx hy heq
        rw [readAt_eq] at hx
        rw [ih, readAt_eq] at hy
        exact Property.eq_of_sameValue heq ((haccepted b).shown.exact_settle hx)
          ((haccepted w).shown.exact_settle hy)
    | false =>
      rw [Option.isSome_eq_false_iff, Option.isNone_iff_eq_none] at hset
      have hsame : e.resolvedStyle b = e.resolvedStyle w := by
        rw [resolvedStyle, Cascade.resolve_eq_cover _ _ hw, hset]
        rfl
      rw [if_neg Bool.false_ne_true, ih, readAt_eq, readAt_eq, hsame]

/-- At each breakpoint the extracted element declares what the element does, colors in normal
form. -/
theorem get?_declarationsAt_restyled (h : ∀ s ∈ e.styles, s.IsAccepted) (b : Breakpoint)
    (d : CssProperty) :
    (e.restyled.declarationsAt b none).get? d.name =
      ((e.declarationsAt b none).get? d.name).map d.normalText := by
  have haccepted : (e.resolvedStyle b).completed.shown.IsAccepted :=
    (isAccepted_resolvedStyle h b).completed.shown
  calc (e.restyled.declarationsAt b none).get? d.name
      = d.render? (e.restyled.resolvedStyle b).completed.shown := by
        rw [declarationsAt_none, Style.get?_declarations]
    _ = d.render? (e.readAt b) := by
        rw [(e.isSettled_resolvedStyle_restyled b).render?_completed_shown,
          shown_resolvedStyle_restyled h]
    _ = (d.render? (e.resolvedStyle b).completed.shown).map d.normalText := by
        rw [readAt_eq, haccepted.render?_settle]
    _ = ((e.declarationsAt b none).get? d.name).map d.normalText := by
        rw [declarationsAt_none, Style.get?_declarations]

end Element

namespace Declarations

/-- A declared value with a color in normal form. -/
def normalText (name value : String) : String :=
  if name ∈ ColorProperty.all.map ColorProperty.css then Color.normalText value else value

/-- The text of a property is brought to the form of the property. -/
theorem normalText_name (d : CssProperty) : normalText d.name = d.normalText := by
  have hcolor {q : ColorProperty} : q.css ∈ ColorProperty.all.map ColorProperty.css :=
    List.mem_map.2 ⟨q, q.mem_all, rfl⟩
  by_cases hd : ∃ q, d = .color q
  · obtain ⟨q, rfl⟩ := hd
    funext value
    exact if_pos hcolor
  · simp only [not_exists] at hd
    have hname : d.name ∉ ColorProperty.all.map ColorProperty.css := by
      intro hmem
      obtain ⟨q, -, hq⟩ := List.mem_map.1 hmem
      exact hd q (CssProperty.name_injective hq.symm)
    have hnormal : d.normalText = id := by
      cases d with
      | color q => exact absurd rfl (hd q)
      | _ => rfl
    funext value
    rw [hnormal]
    exact if_neg hname

end Declarations

namespace Extraction

open Compilation Element

/-- Compiled elements with accepted styles and exact numbers are extracted, under each name one,
that declares the same at every breakpoint, with colors in normal form. -/
theorem exists_declarationsAt_normalForm (page : Page) {es : List Element}
    (hnodup : (es.map (·.id)).Nodup)
    (hchecked : ∀ e ∈ es, ∀ s ∈ e.styles, Validation.checkStyle page e s = .ok ())
    (hexact : ∀ e ∈ es, ∀ s ∈ e.styles, s.HasExactNumbers) (shown : Breakpoint) :
    ∃ ys, normalForm es shown = .ok ys ∧
      ∀ e ∈ es, ∃ e' ∈ ys, e'.id = e.id ∧ (∀ y ∈ ys, y.id = e.id → y = e') ∧
        ∀ b name, (e'.declarationsAt b none).get? name =
          ((e.declarationsAt b none).get? name).map (Declarations.normalText name) := by
  obtain ⟨forest, hgrows⟩ := exists_grows es
  refine ⟨_, normalForm_eq hgrows shown, fun e he => ?_⟩
  have hnames : ((flattenAll (normalizedAll forest)).map (·.id)).Nodup := by
    change (names (normalizedAll forest)).Nodup
    rw [names_normalizedAll]
    exact hgrows.nodup_names
  obtain ⟨x, hx, hid⟩ := List.mem_map.1 (hgrows.mem_names_iff.2 ⟨e, he, rfl⟩)
  have hmem : x.normalized ∈ flattenAll (normalizedAll forest) := by
    rw [flattenAll_normalizedAll]
    exact List.mem_map.2 ⟨x, hx, rfl⟩
  refine ⟨x.normalized, hmem, hid, fun y hy hyid => ?_, fun b name => ?_⟩
  · exact List.inj_on_of_nodup_map hnames hy hmem (hyid.trans hid.symm)
  · have hsame : x.normalized.declarationsAt b none = e.restyled.declarationsAt b none := by
      obtain ⟨e', he', parent, rfl⟩ := hgrows.exists_of_mem hx
      obtain rfl : e' = e := List.inj_on_of_nodup_map hnodup he' he hid
      rfl
    have haccepted : ∀ s ∈ e.styles, s.IsAccepted := fun s hs =>
      Style.isAccepted_iff.2
        ⟨Validation.checkStyle_eq_ok_iff.1 (hchecked e he s hs), hexact e he s hs⟩
    rw [hsame]
    cases hname : CssProperty.ofName? name with
    | none =>
      rw [declarationsAt_none, declarationsAt_none, Style.get?_declarations_of_unknown _ hname,
        Style.get?_declarations_of_unknown _ hname]
      rfl
    | some d =>
      obtain rfl := CssProperty.name_of_ofName? hname
      rw [Declarations.normalText_name]
      exact get?_declarationsAt_restyled haccepted b d

/-- A red box of a width that is stacked on narrow viewports. -/
def poster (width : Binary64) : Element :=
  { Element.new "poster" .container with
    style := { color := some "Red", width := some (.px width) }
    responsive := { tablet := some { zIndex := some 2, fontFamily := some "Open Sans" } } }

/-- The poster has two styles. -/
theorem styles_poster (width : Binary64) : (poster width).styles =
    [{ color := some "Red", width := some (.px width) },
      { zIndex := some 2, fontFamily := some "Open Sans" }] := rfl

/-- Both are accepted. -/
theorem checkStyle_poster (page : Page) (e : Element) (width : Binary64) :
    ∀ s ∈ (poster width).styles, Validation.checkStyle page e s = .ok () := by
  rw [styles_poster, List.forall_mem_cons, List.forall_mem_singleton]
  exact ⟨rfl, rfl⟩

/-- Both have exact numbers if the width is exact. -/
theorem hasExactNumbers_poster {width : Binary64} (h : width.IsExact) :
    ∀ s ∈ (poster width).styles, s.HasExactNumbers := by
  rw [styles_poster, List.forall_mem_cons, List.forall_mem_singleton]
  constructor
  · intro p x hx n hn
    match p, x, hx with
    | .length .width, _, rfl => exact List.mem_singleton.1 hn ▸ h
    | .color .text, _, rfl => exact absurd hn List.not_mem_nil
  · intro p x hx n hn
    match p, x, hx with
    | .zIndex, _, rfl => exact absurd hn List.not_mem_nil
    | .fontFamily, _, rfl => exact absurd hn List.not_mem_nil

theorem exists_declarationsAt_normalForm_poster :
    ∃ ys, normalForm [poster (.ofInt (320 : Nat))] .laptop = .ok ys ∧
      ∀ e ∈ [poster (.ofInt (320 : Nat))], ∃ e' ∈ ys, e'.id = e.id ∧
        (∀ y ∈ ys, y.id = e.id → y = e') ∧
        ∀ b name, (e'.declarationsAt b none).get? name =
          ((e.declarationsAt b none).get? name).map (Declarations.normalText name) :=
  exists_declarationsAt_normalForm (Page.new "home" "Home") (by simp)
    (List.forall_mem_singleton.2 (checkStyle_poster _ _ _))
    (List.forall_mem_singleton.2 (hasExactNumbers_poster (Binary64.isExact_ofInt (by decide))))
    .laptop

end Extraction

end Sitework
