import Sitework.Proofs.Validation.Edits

/-!
# Layers of an accepted page

A page is accepted only if every layer below the base is minimal. The layers are decided by pruning
a copy of them, and pruning goes over the breakpoints below the base. So a layer that is stored for
the base itself, which no viewport ever shows, is compared with nothing but itself: whatever
accepted values it holds, and even if it holds none, the page is accepted with it, unless one is a
NaN.
-/

namespace Sitework

/-- The element with another layer for the base, or with none. -/
def Element.withBaseLayer (e : Element) (layer : Option Style) : Element :=
  { e with responsive := e.responsive.set .monitor layer }

namespace Validation

variable {key : String} {page : Page} {e : Element}

/-- An element of an accepted page is kept under its own name. -/
theorem get?_id_of_checkPage (h : checkPage key page = .ok ()) (he : e ∈ page.elements.values) :
    page.elements.get? e.id = some e := by
  obtain ⟨⟨id, _⟩, hentry, rfl⟩ := List.mem_map.1 he
  have hget := OrderedMap.get?_eq_some_iff.2 hentry
  have helement := (checkPage_eq_ok_iff.1 h).2.2.2 id _ hget
  rwa [(checkElement_eq_ok_iff.1 helement).1] at hget

/-- A layer for the base leaves a sound element sound if its values are accepted and none is a
NaN. -/
theorem isSound_withBaseLayer (h : e.IsSound) {layer : Style} (hallowed : layer.IsAllowed)
    (hnumbers : layer.HasNoNaN) : (e.withBaseLayer (some layer)).IsSound := by
  have hget (b : Breakpoint) : (e.withBaseLayer (some layer)).responsive.get b =
      if b = .monitor then some layer else e.responsive.get b := Layers.get_set _ _ _ _
  exact {
    named := h.named
    flat := h.flat
    level := h.level
    allowed := by
      intro s hs
      rcases Element.mem_styles_iff.1 hs with rfl | ⟨b, hb⟩
      · exact h.allowed _ List.mem_cons_self
      · rw [hget] at hb
        split at hb
        · exact Option.some_inj.1 hb ▸ hallowed
        · exact h.allowed s (Element.mem_styles_of_layer hb)
    minimal := by
      apply h.minimal.congr
      intro b hb
      rw [hget, if_neg hb]
    numbers := by
      intro b s hb
      rw [hget] at hb
      split at hb
      · exact Option.some_inj.1 hb ▸ hnumbers
      · exact h.numbers b s hb }

/-- The layers of an accepted page are minimal at the breakpoints below the base, and only there:
each of its elements may have a layer for the base exactly if its values are accepted and none is a
NaN. -/
theorem isMinimalAt_of_checkPage (h : checkPage key page = .ok ())
    (he : e ∈ page.elements.values) :
    (∀ b, b ≠ .monitor → Cascade.IsMinimalAt e.style e.responsive b) ∧
      ∀ layer : Style, checkPage key (page.insert (e.withBaseLayer (some layer))) = .ok () ↔
        layer.IsAllowed ∧ layer.HasNoNaN := by
  have hsound : e.IsSound := isSound_of_checkPage h e he
  refine ⟨Cascade.isMinimal_iff.1 hsound.minimal, fun layer => ⟨fun hfinal => ?_, ?_⟩⟩
  · have hget : (page.insert (e.withBaseLayer (some layer))).elements.get? e.id =
        some (e.withBaseLayer (some layer)) := by
      rw [Page.insert, OrderedMap.get?_insert]
      exact if_pos rfl
    have hnew := isSound_of_checkPage hfinal _ (OrderedMap.mem_values_of_get? hget)
    have hlayer : (e.withBaseLayer (some layer)).responsive.get .monitor = some layer :=
      Layers.get_set _ _ _ _
    exact ⟨hnew.allowed layer (Element.mem_styles_of_layer hlayer), hnew.numbers _ _ hlayer⟩
  · rintro ⟨hallowed, hnumbers⟩
    have hget := get?_id_of_checkPage h he
    refine checkPage_of_places h rfl (Page.places_insert hget rfl) fun id e' he' => ?_
    rw [Page.insert, OrderedMap.get?_insert] at he'
    split at he'
    · obtain rfl := Option.some_inj.1 he'
      exact isSound_withBaseLayer hsound hallowed hnumbers
    · exact isSound_of_checkPage h e' (OrderedMap.mem_values_of_get? he')

/-- A style that sets one color. -/
def red : Style := { color := some "red" }

/-- A red text, which is blue on laptops and red again on tablets. -/
def memo : Element :=
  { Element.new "memo" .text with
    style := red
    responsive := { laptop := some { color := some "blue" }, tablet := some red } }

theorem isMinimalAt_of_checkPage_memo :
    checkPage "home" ((Page.new "home" "Home").insert memo) = .ok () ∧
      (∀ b, b ≠ .monitor → Cascade.IsMinimalAt memo.style memo.responsive b) ∧
      checkPage "home" (((Page.new "home" "Home").insert memo).insert
        (memo.withBaseLayer (some red))) = .ok () ∧
      ¬ Cascade.IsMinimalAt memo.style (memo.withBaseLayer (some red)).responsive .monitor := by
  have haccepted : checkPage "home" ((Page.new "home" "Home").insert memo) = .ok () := by
    decide +kernel
  have hmem : memo ∈ ((Page.new "home" "Home").insert memo).elements.values :=
    List.mem_singleton_self _
  have hcheck : checkStyle (Page.new "home" "Home") memo red = .ok () := by decide +kernel
  obtain ⟨hminimal, hopen⟩ := isMinimalAt_of_checkPage haccepted hmem
  have hred : red.HasNoNaN := Style.sameValues_self_iff.1 (by decide +kernel)
  refine ⟨haccepted, hminimal, (hopen red).2 ⟨checkStyle_eq_ok_iff.1 hcheck, hred⟩, fun h => ?_⟩
  have hdiffers := (h red rfl).2 (.color .text) "red" rfl "red" rfl
  cases hdiffers

end Validation

end Sitework
