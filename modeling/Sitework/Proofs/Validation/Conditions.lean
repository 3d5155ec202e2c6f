import Sitework.Proofs.Validation.Parents

/-!
# What a page has to be

The check of a page always comes to an end, and it accepts exactly the pages that meet the
conditions below. Most of them are about one element. The check of an element's parent goes from
parent to parent, and together these walks say that the page has no cycle of parents.
-/

namespace Sitework

/-- What a page asks of an element that it keeps under a name. -/
structure Element.IsAcceptedOn (page : Page) (key : String) (e : Element) : Prop where
  named : e.id ≠ ""
  own : key = e.id
  flat : e.children = []
  level : ∀ level, e.kind = .heading level → 1 ≤ level ∧ level ≤ 6
  colors : ∀ s ∈ e.styles, ∀ q text, s.get (.color q) = some text →
    ∃ normal, Value.color text = .ok normal
  families : ∀ s ∈ e.styles, ∀ family, s.fontFamily = some family →
    (∃ c ∈ family.toList, Text.isBlank c = false) ∧
      ∀ c ∈ family.toList, Validation.endsFamily c = false ∧ Validation.isControl c = false
  /-- The layers after pruning are compared with `==`, so that none of them holds a NaN. -/
  pruned : ∀ b,
    Style.SameLayer ((Cascade.prune e.style e.responsive).get b) (e.responsive.get b)
  top : e.kind = .pageSection → e.parentId = none
  below : ∀ parent, page.HasParent e parent → parent.kind.acceptsChildren = true

/-- What a page that is kept under a name has to be. -/
structure Page.IsAccepted (key : String) (page : Page) : Prop where
  named : page.id ≠ ""
  own : key = page.id
  chars : ∀ c ∈ page.id.toList, c.isAlphanum = true ∨ c = '-' ∨ c = '_'
  elements : ∀ id e, page.elements.get? id = some e → e.IsAcceptedOn page id
  acyclic : page.IsAcyclic

namespace Style

variable {s : Style}

/-- The values that are accepted on a condition are colors and font families. -/
theorem isAllowed_iff : s.IsAllowed ↔
    (∀ q text, s.get (.color q) = some text → Validation.isColor text = true) ∧
      ∀ family, s.fontFamily = some family → Validation.isFontFamily family = true := by
  constructor
  · intro h
    exact ⟨fun q => h (.color q), h .fontFamily⟩
  · rintro ⟨hcolors, hfamily⟩ p x hx
    cases p with
    | color q => exact hcolors q x hx
    | fontFamily => exact hfamily x hx
    | _ => rfl

end Style

namespace Element

variable {page : Page} {key : String} {e : Element}

/-- The conditions on an element are those on it alone and those on its parent. -/
theorem isAcceptedOn_iff : e.IsAcceptedOn page key ↔
    key = e.id ∧ e.IsSound ∧ (e.kind = .pageSection → e.parentId = none) ∧
      ∀ parent, page.HasParent e parent → parent.kind.acceptsChildren = true := by
  have hallowed : (∀ s ∈ e.styles, s.IsAllowed) ↔
      (∀ s ∈ e.styles, ∀ q text, s.get (.color q) = some text →
        ∃ normal, Value.color text = .ok normal) ∧
      ∀ s ∈ e.styles, ∀ family, s.fontFamily = some family →
        (∃ c ∈ family.toList, Text.isBlank c = false) ∧
          ∀ c ∈ family.toList,
            Validation.endsFamily c = false ∧ Validation.isControl c = false := by
    simp only [Style.isAllowed_iff, Validation.isColor_iff, Validation.isFontFamily_iff,
      forall_and]
  constructor
  · intro h
    obtain ⟨hminimal, hnumbers⟩ := Cascade.sameLayer_prune_self_iff.1 h.pruned
    exact ⟨h.own, ⟨⟨h.named, h.flat, h.level, hallowed.2 ⟨h.colors, h.families⟩, hminimal⟩,
      hnumbers⟩, h.top, h.below⟩
  · rintro ⟨hown, hsound, htop, hbelow⟩
    obtain ⟨hcolors, hfamilies⟩ := hallowed.1 hsound.allowed
    exact ⟨hsound.named, hown, hsound.flat, hsound.level, hcolors, hfamilies,
      Cascade.sameLayer_prune_self_iff.2 ⟨hsound.minimal, hsound.numbers⟩, htop, hbelow⟩

end Element

namespace Validation

variable {page : Page} {key : String} {e : Element}

/-- A parent is accepted if no section has one, and if it is on the page, it may have children and
the way up from there comes to an end. -/
theorem checkParent_eq_ok_iff_hasParent : checkParent page e = .ok () ↔
    (e.kind = .pageSection → e.parentId = none) ∧
      ∀ parent, page.HasParent e parent →
        parent.kind.acceptsChildren = true ∧ isCyclic page e = false := by
  have hsection : e.isSection = false ↔ e.kind ≠ .pageSection := beq_eq_false_iff_ne
  rw [checkParent_eq_ok_iff]
  simp only [Page.HasParent, Page.parent?, hsection]
  cases e.parentId with
  | none => simp
  | some parentId => simp

/-- The check of a page comes to an end: the way up from an element visits at most one parent for
each element of the page and one more. It accepts exactly the pages that meet all conditions. -/
theorem checkPage_eq_ok_iff_isAccepted (key : String) (page : Page) :
    (∀ e, ∃ n ≤ page.elements.size + 1, page.Walk [e.id] e n (isCyclic page e)) ∧
      (checkPage key page = .ok () ↔ page.IsAccepted key) := by
  refine ⟨exists_walk_isCyclic page, ?_⟩
  simp only [checkPage_eq_ok_iff, checkElement_eq_ok_iff, checkParent_eq_ok_iff_hasParent]
  constructor
  · rintro ⟨hown, hnamed, hchars, helements⟩
    refine ⟨hnamed, hown, ?_, ?_, ?_⟩
    · intro c hc
      have hchar := hchars c hc
      rwa [isPageIdChar, Bool.or_eq_true, Bool.or_eq_true, beq_iff_eq, beq_iff_eq, or_assoc]
        at hchar
    · intro id e he
      obtain ⟨hid, hsound, htop, hbelow⟩ := helements id e he
      exact Element.isAcceptedOn_iff.2 ⟨hid, hsound, htop, fun parent hparent =>
        (hbelow parent hparent).1⟩
    · refine isAcyclic_of_isCyclic_eq_false fun e he parent hparent => ?_
      obtain ⟨⟨id, _⟩, hentry, rfl⟩ := List.mem_map.1 he
      obtain ⟨-, -, -, hbelow⟩ := helements id _ (OrderedMap.get?_eq_some_iff.2 hentry)
      exact (hbelow parent hparent).2
  · intro h
    have hown : page.KeepsOwnNames := fun id e he => (h.elements id e he).own
    refine ⟨h.own, h.named, ?_, ?_⟩
    · intro c hc
      rw [isPageIdChar, Bool.or_eq_true, Bool.or_eq_true, beq_iff_eq, beq_iff_eq, or_assoc]
      exact h.chars c hc
    · intro id e he
      obtain ⟨hid, hsound, htop, hbelow⟩ := Element.isAcceptedOn_iff.1 (h.elements id e he)
      have hends : isCyclic page e = false :=
        isCyclic_eq_false_of_isAcyclic hown h.acyclic (OrderedMap.mem_values_of_get? he)
      exact ⟨hid, hsound, htop, fun parent hparent => ⟨hbelow parent hparent, hends⟩⟩

end Validation

end Sitework
