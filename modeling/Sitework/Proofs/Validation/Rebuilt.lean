import Sitework.Proofs.Extraction.Agreement
import Sitework.Proofs.Extraction.Layers
import Sitework.Proofs.Validation.Parents

/-!
# Rebuilt pages

What is extracted from the markup of an accepted page makes an accepted page again. Each extracted
element is sound: its colors and font families are read from accepted ones, and each of its layers
is a difference from what its wider layers leave in force. The elements are listed with parents
before their children, so no chain of parents comes back to where it began.
-/

namespace Sitework

namespace Color

/-- A color is one in normal form as well. -/
theorem isColor_normalText {text : String} (h : Validation.isColor text = true) :
    Validation.isColor (normalText text) = true :=
  Validation.isColor_iff.2 ⟨_, color_of_isNormal (isNormal_of_color (color_eq_ok h))⟩

end Color

namespace Property

/-- The check of styles looks at the property. -/
def isChecked : Property → Bool
  | .color _ | .fontFamily => true
  | _ => false

/-- A property that is not checked may have any value. -/
theorem allows_of_isChecked {p : Property} (h : p.isChecked = false) (x : p.Value) :
    p.allows x = true := by
  cases p with
  | color q => cases h
  | fontFamily => cases h
  | _ => rfl

/-- A property that is checked holds no numbers. -/
theorem numbers_of_isChecked {p : Property} (h : p.isChecked = true) (x : p.Value) :
    p.numbers x = [] := by
  cases p with
  | color q => rfl
  | fontFamily => rfl
  | _ => cases h

/-- It is rendered alone. -/
theorem rendersAlone_of_isChecked {p : Property} (h : p.isChecked = true) :
    CssProperty.rendersAlone p = true := by
  cases p with
  | color q => rfl
  | fontFamily => rfl
  | _ => cases h

/-- What is read for an accepted value is accepted. -/
theorem allows_normal {p : Property} {x : p.Value} (h : p.allows x = true) :
    p.allows (p.normal x) = true := by
  cases p with
  | color q =>
    simp only [allows, normal] at h ⊢
    exact Color.isColor_normalText h
  | _ => exact h

end Property

namespace ElementKind

/-- The level that is read for a heading is in range. -/
theorem level_of_normal {kind : ElementKind} {level : UInt8} (h : kind.normal = .heading level) :
    1 ≤ level ∧ level ≤ 6 := by
  unfold normal at h
  split at h
  · obtain rfl := heading.inj h
    split
    · next hrange => exact hrange
    · decide
  · split at h <;> cases h
  · next hkind _ => exact absurd h (hkind level)

end ElementKind

namespace Style

variable {s : Style}

/-- What is read of accepted values is accepted. Numbers take no part in it: of the values that
are looked at, each is rendered alone. -/
theorem IsAllowed.settle (h : s.IsAllowed) : s.settle.IsAllowed := by
  intro p x hx
  cases hchecked : p.isChecked with
  | false => exact Property.allows_of_isChecked hchecked x
  | true =>
    have halone := Property.rendersAlone_of_isChecked hchecked
    have haccepted : (s.restrict Property.isChecked).IsAccepted := by
      intro q y hy
      rw [get_restrict] at hy
      split at hy
      · next hq =>
        refine ⟨h q y hy, ?_⟩
        rw [Property.numbers_of_isChecked hq]
        exact nofun
      · cases hy
    have hrendered : (CssProperty.owner p).render? s =
        (CssProperty.owner p).render? (s.restrict Property.isChecked) := by
      apply CssProperty.render?_congr
      intro q hq
      rw [CssProperty.eq_of_rendersAlone halone hq, get_restrict, if_pos hchecked]
    have hread : s.settle.get p = (s.get p).map p.normal := by
      rw [get_settle, hrendered, ← get_settle, haccepted.get_settle_of_alone halone, get_restrict,
        if_pos hchecked]
    rw [hread, Option.map_eq_some_iff] at hx
    obtain ⟨y, hy, rfl⟩ := hx
    exact Property.allows_normal (h p y hy)

/-- A style over what is inherited is allowed if the style is. -/
theorem IsAllowed.rebased (h : s.IsAllowed) (inherited : Style) :
    (s.rebased inherited).IsAllowed := by
  rw [Style.rebased, withoutImpliedPosition_eq]
  split
  · exact Meets.withPosition h (fun _ => rfl) _
  · exact h

end Style

namespace Element

variable {e : Element}

/-- What is read for an element is allowed if its styles are. -/
theorem isAllowed_readAt (h : ∀ s ∈ e.styles, s.IsAllowed) (b : Breakpoint) :
    (e.readAt b).IsAllowed := by
  have hresolved : (e.resolvedStyle b).IsAllowed := meets_resolvedStyle h b
  rw [readAt_eq]
  exact hresolved.shown_completed.settle

/-- A layer that is read is a difference from what is in force at the next wider breakpoint, and
sets something. -/
theorem get_responsive_restyled_eq_some {b w : Breakpoint} (hw : b.wider? = some w) {layer : Style}
    (h : e.restyled.responsive.get b = some layer) : layer.isEmpty = false ∧
      ((e.readAt b).rebased (e.restyled.resolvedStyle w)).diff (e.restyled.resolvedStyle w) =
        layer := by
  rw [get_responsive_restyled e hw] at h
  split at h
  · obtain ⟨hempty, rfl⟩ := Style.nonempty_eq_some_iff.1 h
    exact ⟨hempty, rfl⟩
  · cases h

/-- The styles that are read from those of an accepted element are accepted. -/
theorem isAllowed_restyled (h : ∀ s ∈ e.styles, s.IsAllowed) :
    ∀ s ∈ e.restyled.styles, s.IsAllowed := by
  intro s hs
  rcases mem_styles_iff.1 hs with rfl | ⟨b, hb⟩
  · rw [show e.restyled.style = (e.readAt .monitor).withoutImpliedPosition from rfl,
      Style.withoutImpliedPosition_eq]
    exact Style.Meets.withPosition (isAllowed_readAt h _) (fun _ => rfl) _
  · cases hw : b.wider? with
    | none =>
      rw [Breakpoint.eq_monitor_of_wider? hw] at hb
      exact absurd ((Extraction.get_overrides_monitor _).symm.trans hb) nofun
    | some w =>
      obtain ⟨-, rfl⟩ := get_responsive_restyled_eq_some hw hb
      exact ((isAllowed_readAt h b).rebased _).diff _

/-- The layers that are read are minimal. -/
theorem isMinimal_restyled (e : Element) :
    Cascade.IsMinimal e.restyled.style e.restyled.responsive :=
  Extraction.isMinimal_overrides _

/-- A sound element is sound in normal form, wherever it stands. -/
theorem IsSound.normalized (h : e.IsSound) (parentId : Option String) :
    ({ e with parentId, children := [] } : Element).normalized.IsSound where
  named := h.named
  flat := rfl
  level := fun _ hlevel => ElementKind.level_of_normal hlevel
  allowed := isAllowed_restyled h.allowed
  minimal := isMinimal_restyled _
  numbers := fun _ _ => Extraction.hasNoNaN_of_get_overrides

end Element

namespace Page

variable {p : Page} {es : List Element}

@[simp] theorem id_insertAll (p : Page) (es : List Element) : (p.insertAll es).id = p.id := by
  induction es generalizing p with
  | nil => rfl
  | cons e es ih => exact ih (p.insert e)

/-- Elements with different names are kept under them, in order. -/
theorem entries_insertAll (hempty : p.elements = .empty) (hnodup : (es.map (·.id)).Nodup) :
    (p.insertAll es).elements.entries = es.map fun e => (e.id, e) := by
  have helements (q : Page) : (q.insertAll es).elements =
      q.elements.insertAll (es.map fun e => (e.id, e)) := by
    rw [insertAll, OrderedMap.insertAll, List.foldl_map]
    induction es generalizing q with
    | nil => rfl
    | cons e es ih => exact ih (List.nodup_cons.1 hnodup).2 (q.insert e)
  rw [helements, hempty]
  apply OrderedMap.entries_ofList
  rw [List.map_map]
  exact hnodup

end Page

namespace Validation

section Listed

variable {page : Page} {es : List Element}
  (hentries : page.elements.entries = es.map fun e => (e.id, e))
include hentries

/-- The element that is found under a name is the listed one of that name. -/
theorem mem_of_get?_eq_some {id : String} {e : Element} (h : page.elements.get? id = some e) :
    e ∈ es ∧ e.id = id := by
  rw [OrderedMap.get?_eq_some_iff, hentries, List.mem_map] at h
  obtain ⟨listed, hlisted, heq⟩ := h
  obtain ⟨hid, rfl⟩ := Prod.mk.inj heq
  exact ⟨hlisted, hid⟩

/-- The elements under distinct names of their own have distinct names. -/
theorem nodup_ids_of_entries : (es.map (·.id)).Nodup := by
  have hkeys := page.elements.nodup
  rw [hentries, List.map_map] at hkeys
  exact hkeys

variable (hfirst : Element.ParentsFirst [] es)
include hfirst

/-- Where elements are listed with parents before their children, a parent has the lower place. -/
theorem idxOf_lt_of_hasParent {e parent : Element} (he : e ∈ es) (h : page.HasParent e parent) :
    (es.map (·.id)).idxOf parent.id < (es.map (·.id)).idxOf e.id := by
  obtain ⟨before, after, rfl⟩ := List.append_of_mem he
  obtain ⟨parentId, hparentId, hget⟩ := Option.bind_eq_some_iff.1 h
  obtain ⟨-, rfl⟩ := mem_of_get?_eq_some hentries hget
  have hbefore : parent.id ∈ before.map (·.id) :=
    (hfirst.parentId_mem hparentId).resolve_left List.not_mem_nil
  have hlater : e.id ∉ before.map (·.id) := by
    have hnodup := nodup_ids_of_entries hentries
    rw [List.map_append, List.nodup_append] at hnodup
    exact fun hmem => hnodup.2.2 _ hmem _ List.mem_cons_self rfl
  rw [List.map_append, List.map_cons, List.idxOf_append_of_mem hbefore,
    List.idxOf_append_of_notMem hlater, List.idxOf_cons_self, Nat.add_zero]
  exact List.idxOf_lt_length_of_mem hbefore

/-- The parents of rebuilt elements do not lead around. -/
theorem isCyclic_eq_false {e : Element} (he : e ∈ es) : isCyclic page e = false := by
  have hvalues : page.elements.values = es := by
    rw [OrderedMap.values, hentries, List.map_map]
    exact List.map_id _
  have hown : page.KeepsOwnNames := fun _ _ hget => (mem_of_get?_eq_some hentries hget).2.symm
  have hacyclic : page.IsAcyclic := by
    refine Page.isAcyclic_of_rank (fun e => (es.map (·.id)).idxOf e.id) ?_
    rw [hvalues]
    exact fun _ hmem _ hparent => idxOf_lt_of_hasParent hentries hfirst hmem hparent
  exact isCyclic_eq_false_of_isAcyclic hown hacyclic (hvalues ▸ he)

end Listed

/-- The flat list of a forest of sound elements makes an accepted page, if the page has a name for
files. -/
theorem checkPage_insertAll_flattenAll {key : String} {page : Page} {forest : List Element}
    (hnested : Element.IsNested none forest) (hnodup : (Element.names forest).Nodup)
    (hsound : ∀ e ∈ Element.flattenAll forest, e.IsSound) (hempty : page.elements = .empty)
    (hkey : key = page.id) (hne : page.id ≠ "")
    (hchars : ∀ c ∈ page.id.toList, isPageIdChar c = true) :
    checkPage key (page.insertAll (Element.flattenAll forest)) = .ok () := by
  have hentries := Page.entries_insertAll hempty hnodup
  rw [checkPage_eq_ok_iff, Page.id_insertAll]
  refine ⟨hkey, hne, hchars, fun id e hget => ?_⟩
  obtain ⟨he, rfl⟩ := mem_of_get?_eq_some hentries hget
  rw [checkElement_eq_ok_iff, checkParent_eq_ok_iff]
  refine ⟨rfl, hsound e he, fun parentId hparentId => ?_⟩
  rcases hnested.parentId_of_mem hnodup he with ⟨hnone, -⟩ | ⟨hsection, z, hz, haccepts, -, hz'⟩
  · rw [hnone] at hparentId
    cases hparentId
  · refine ⟨hsection, fun parent hparent => ?_⟩
    obtain ⟨hmem, hparentName⟩ := mem_of_get?_eq_some hentries hparent
    obtain rfl : parent = z := by
      refine List.inj_on_of_nodup_map hnodup hmem hz ?_
      rw [hparentName]
      exact Option.some_inj.1 (hparentId.symm.trans hz')
    exact ⟨haccepts, isCyclic_eq_false hentries (hnested.parentsFirst nofun) he⟩

end Validation

namespace Extraction

open Compilation Element

/-- What is extracted from the markup of an accepted page, at any breakpoint, makes an accepted
page under the same name, with the extracted elements in their order. -/
theorem exists_checkPage_insertAll {key : String} {page : Page}
    (h : Validation.checkPage key page = .ok ()) (b : Breakpoint) :
    ∃ es, (extractAll (page.compile b)).map flattenAll = .ok es ∧
      ∀ name title isIndex,
        ((Page.mk page.id name title isIndex .empty).insertAll es).elements.values = es ∧
          Validation.checkPage key ((Page.mk page.id name title isIndex .empty).insertAll es) =
            .ok () := by
  have hids := Validation.nodup_ids_of_checkPage h
  obtain ⟨forest, hgrows⟩ := exists_grows page.elements.values
  have hnested : IsNested none (normalizedAll forest) := (hgrows.isNested hids).normalizedAll
  have hnodup : (names (normalizedAll forest)).Nodup := by
    rw [names_normalizedAll]
    exact hgrows.nodup_names
  have hsound : ∀ e ∈ flattenAll (normalizedAll forest), e.IsSound := by
    rw [flattenAll_normalizedAll, List.forall_mem_map]
    intro y hy
    obtain ⟨e, he, parentId, rfl⟩ := hgrows.exists_of_mem hy
    exact (Validation.isSound_of_checkPage h e he).normalized parentId
  obtain ⟨hkey, hne, hchars⟩ := Validation.name_of_checkPage h
  refine ⟨_, normalForm_eq hgrows b, fun name title isIndex => ⟨?_, ?_⟩⟩
  · rw [OrderedMap.values, Page.entries_insertAll rfl hnodup, List.map_map]
    exact List.map_id _
  · exact Validation.checkPage_insertAll_flattenAll hnested hnodup hsound rfl hkey hne hchars

/-- A menu in another box, with a color that two breakpoints change, beside a picture whose parent
is not on the page. -/
def menu : Page :=
  (Page.new "home" "Home").insertAll
    [(Element.new "menu" .container).withParent "bar",
      { Element.new "bar" .pageSection with
        style := { color := some "Red", zIndex := some 1 }
        responsive :=
          { laptop := some { color := some "blue" }, tablet := some { gap := some .auto } } },
      (Element.new "picture" (.image (.url "a.png") none)).withParent "frame"]

theorem exists_checkPage_insertAll_menu : Validation.checkPage "home" menu = .ok () ∧
    ∃ es, (extractAll (menu.compile .tablet)).map flattenAll = .ok es ∧
      Validation.checkPage "home" ((Page.mk "home" "Again" none true .empty).insertAll es) =
        .ok () := by
  have haccepted : Validation.checkPage "home" menu = .ok () := by decide +kernel
  obtain ⟨es, hes, hrebuilt⟩ := exists_checkPage_insertAll haccepted .tablet
  exact ⟨haccepted, es, hes, (hrebuilt "Again" none true).2⟩

end Extraction

end Sitework
