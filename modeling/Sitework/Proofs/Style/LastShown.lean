import Sitework.Proofs.Style.Completion
import Sitework.Proofs.Style.Injective

/-!
# Groups completed from what was last shown

Completing an update adds values to the groups that it touches and to nothing else. A group that a
style touches takes the values it leaves unset from what was last shown, and only those that were
not shown from the defaults. So what was shown before makes a difference exactly if it has a value
other than the default for an unset property of a group that is touched: the style then borrows that
value. Where everything that was set when it was shown is still set, nothing can be borrowed: all
that was shown beyond what was set are defaults.
-/

namespace Sitework

namespace CompositeGroup

variable {g : CompositeGroup} {p q : Property}

/-- The group of the properties that a rendered property belongs to. -/
def ofOwner? : CssProperty → Option CompositeGroup
  | .transform => some .transform
  | .gridTemplate _ => some .grid
  | .display | .flexDirection | .alignItems | .justifyContent => some .flex
  | _ => none

/-- The members of a group are those of the properties that are rendered with them. -/
theorem mem_members_iff : p ∈ g.members ↔ ofOwner? (CssProperty.owner p) = some g := by
  cases p with
  | length q => cases g <;> cases q <;> decide
  | color q => cases g <;> cases q <;> decide
  | trackCount a => cases g <;> cases a <;> decide
  | trackSize a => cases g <;> cases a <;> decide
  | transform q => cases g <;> cases q <;> decide
  | _ => cases g <;> decide

/-- A property is a member of one group at most. -/
theorem eq_of_mem_members {h : CompositeGroup} (hg : p ∈ g.members) (hh : p ∈ h.members) :
    g = h := by
  rw [mem_members_iff] at hg hh
  exact Option.some_inj.1 (hg.symm.trans hh)

/-- The position is in no group. -/
theorem owner_ne_position_of_mem_members (h : p ∈ g.members) :
    CssProperty.owner p ≠ .position := by
  intro howner
  rw [mem_members_iff, howner] at h
  cases h

/-- A group has defaults for members only. -/
theorem mem_members_of_get_defaults (h : (g.defaults.get p).isSome = true) : p ∈ g.members := by
  rw [mem_members_iff]
  rcases owner_of_get_defaults h with ⟨rfl, howner⟩ | ⟨rfl, a, rfl⟩
  · rw [howner]
    rfl
  · rfl

/-- The defaults of a group set its members only. -/
theorem get_defaults_of_not_mem (h : p ∉ g.members) : g.defaults.get p = none := by
  rw [← Option.not_isSome_iff_eq_none]
  exact fun hset => h (mem_members_of_get_defaults hset)

theorem get_part_of_mem (s : Style) (h : p ∈ g.members) : (g.part s).get p = s.get p := by
  rw [part, Style.get_restrict, if_pos (List.contains_iff_mem.2 h)]

theorem get_part_of_not_mem (s : Style) (h : p ∉ g.members) : (g.part s).get p = none := by
  rw [part, Style.get_restrict, if_neg (fun hmem => h (List.contains_iff_mem.1 hmem))]

/-- Wherever present values come from, a group has them for its members only. -/
theorem get_present_of_not_mem (source : PresentStyle) (h : p ∉ g.members) :
    (g.present source).get p = none := by
  simp only [present, Style.get_merge, get_part_of_not_mem _ h, get_defaults_of_not_mem h,
    Option.none_or]

theorem touchedBy_of_mem {s : Style} (hp : p ∈ g.members) (h : (s.get p).isSome = true) :
    g.touchedBy s = true :=
  List.any_eq_true.2 ⟨p, hp, h⟩

/-- Where each group has values for its members only, a member is given that of its group. -/
theorem findSome?_all_of_mem {α : Type} {f : CompositeGroup → Option α}
    (hf : ∀ h : CompositeGroup, p ∉ h.members → f h = none) (hp : p ∈ g.members) :
    all.findSome? f = f g := by
  have honly {h : CompositeGroup} {x : α} (hx : f h = some x) : h = g := by
    by_contra hne
    rw [hf h fun hmem => hne (eq_of_mem_members hmem hp)] at hx
    cases hx
  cases hg : f g with
  | none =>
    rw [List.findSome?_eq_none_iff]
    intro h _
    cases hh : f h with
    | none => rfl
    | some x => rw [← hg, ← hh, honly hh]
  | some x =>
    have hsome : (all.findSome? f).isSome = true :=
      List.findSome?_isSome_iff.2 ⟨g, mem_all g, by rw [hg, Option.isSome_some]⟩
    obtain ⟨y, hy⟩ := Option.isSome_iff_exists.1 hsome
    obtain ⟨h, -, hh⟩ := List.exists_of_findSome?_eq_some hy
    rw [hy, ← hg, ← hh, honly hh]

/-- A property that is rendered without any other one has no default. -/
theorem get_defaults_of_rendersAlone (h : CssProperty.rendersAlone p = true) :
    g.defaults.get p = none := by
  rw [← Option.not_isSome_iff_eq_none]
  intro hset
  rcases owner_of_get_defaults hset with ⟨-, howner⟩ | ⟨-, a, rfl⟩
  · cases p with
    | transform part => cases h
    | _ => cases howner
  · cases h

end CompositeGroup

namespace Style

variable {s shown update : Style} {source : PresentStyle} {rendered : Declarations}
  {p q : Property} {g : CompositeGroup}

/-- An update adds nothing to a group of which the property is no member. -/
theorem addedFrom_of_not_mem (h : p ∉ g.members) : update.addedFrom source p g = none := by
  rw [addedFrom, CompositeGroup.get_present_of_not_mem source h, ite_self]

/-- A member that an update leaves unset gets its present value, if its group is touched. -/
theorem get_complete_of_touchedBy (hunset : update.get p = none) (hp : p ∈ g.members)
    (htouched : g.touchedBy update = true) :
    (update.complete source).get p = (g.present source).get p := by
  rw [get_complete, hunset, Option.none_or,
    CompositeGroup.findSome?_all_of_mem (fun _ => addedFrom_of_not_mem) hp, addedFrom,
    if_pos htouched]

/-- Outside of the groups that it touches an update stays as it is. -/
theorem get_complete_of_untouched
    (h : ∀ g : CompositeGroup, p ∈ g.members → g.touchedBy update = false) :
    (update.complete source).get p = update.get p := by
  have hnone : CompositeGroup.all.findSome? (update.addedFrom source p) = none := by
    rw [List.findSome?_eq_none_iff]
    intro g _
    by_cases hp : p ∈ g.members
    · rw [addedFrom, h g hp, if_neg Bool.false_ne_true]
    · exact addedFrom_of_not_mem hp
  rw [get_complete, hnone, Option.or_none]

/-- Declarations set all values that are rendered together, or none of them. -/
theorem isSome_get_absorbed (rendered : Declarations)
    (h : CssProperty.owner p = CssProperty.owner q) :
    ((absorbed rendered).get p).isSome = ((absorbed rendered).get q).isSome := by
  rw [get_absorbed, get_absorbed, h]
  cases rendered.get? (CssProperty.owner q).name with
  | none => rfl
  | some value => exact CssProperty.isSome_get_contribution _ value h rfl

/-- All but the position is what was absorbed from the declarations. -/
theorem get_ofDeclarations_of_owner_ne (rendered : Declarations)
    (h : CssProperty.owner p ≠ .position) :
    (ofDeclarations rendered).get p = (absorbed rendered).get p := by
  have hp : p ≠ .position := by
    rintro rfl
    exact h rfl
  exact get_ofDeclarationsOver_of_ne rendered none hp

/-- Nothing but members of a group is filled by it. -/
theorem fillingFrom_of_not_mem (h : p ∉ g.members) : s.fillingFrom shown p g = none := by
  rw [fillingFrom, CompositeGroup.get_part_of_not_mem shown h,
    CompositeGroup.get_defaults_of_not_mem h, Option.none_or, ite_self]

/-- A member of a group is filled by that group. -/
theorem findSome?_fillingFrom (hp : p ∈ g.members) :
    CompositeGroup.all.findSome? (s.fillingFrom shown p) = s.fillingFrom shown p g :=
  CompositeGroup.findSome?_all_of_mem (fun _ => fillingFrom_of_not_mem) hp

/-- An unset member of a group that is touched has the value last shown, or else the default. -/
theorem get_complete_of_mem (hs : s.get p = none) (hp : p ∈ g.members)
    (htouched : g.touchedBy s = true) :
    (s.complete ⟨some rendered, some s⟩).get p =
      ((ofDeclarations rendered).get p).or (g.defaults.get p) := by
  rw [get_complete_self, hs, Option.none_or, findSome?_fillingFrom hp, fillingFrom,
    if_pos htouched, CompositeGroup.get_part_of_mem _ hp, lastShown_some]

/-- Whether a style that leaves a property unset borrows a value that was shown for it: the style
touches the group of the property, and the value is not the default. -/
def Borrows (s shown : Style) (p : Property) : Prop :=
  s.get p = none ∧ ∃ g : CompositeGroup, p ∈ g.members ∧ g.touchedBy s = true ∧
    ∃ x, shown.get p = some x ∧ g.defaults.get p ≠ some x

/-- A style that borrows nothing is completed as if nothing had been shown. -/
theorem complete_eq_completed (h : ∀ p, ¬ s.Borrows (ofDeclarations rendered) p) :
    s.complete ⟨some rendered, some s⟩ = s.completed := by
  have hfilling (p : Property) (hs : s.get p = none) (g : CompositeGroup) :
      s.fillingFrom (ofDeclarations rendered) p g = s.filling p g := by
    rw [← fillingFrom_empty]
    by_cases hp : p ∈ g.members
    · rw [fillingFrom, fillingFrom]
      split
      · next htouched =>
        rw [CompositeGroup.get_part_of_mem _ hp, CompositeGroup.get_part_of_mem _ hp, get_empty,
          Option.none_or]
        cases hshown : (ofDeclarations rendered).get p with
        | none => rfl
        | some x =>
          by_contra hne
          exact h p ⟨hs, g, hp, htouched, x, hshown, Ne.symm hne⟩
      · rfl
    · rw [fillingFrom_of_not_mem hp, fillingFrom_of_not_mem hp]
  apply ext_get
  intro p
  rw [get_complete_self, get_completed]
  cases hs : s.get p with
  | some x => rfl
  | none => rw [lastShown_some, funext (hfilling p hs)]

/-- A property that is rendered together with others is known from the text. -/
theorem get_eq_of_render?_eq {s t : Style} {value : String}
    (halone : CssProperty.rendersAlone p = false)
    (hs : (CssProperty.owner p).render? s = some value)
    (ht : (CssProperty.owner p).render? t = some value) : s.get p = t.get p := by
  have hboth {a : GridAxis} (hs : (CssProperty.gridTemplate a).render? s = some value)
      (ht : (CssProperty.gridTemplate a).render? t = some value) :
      s.get (.trackCount a) = t.get (.trackCount a) ∧
        s.get (.trackSize a) = t.get (.trackSize a) := by
    obtain ⟨tracks, htracks, htext⟩ := Option.map_eq_some_iff.1 hs
    obtain ⟨tracks', htracks', rfl⟩ := Option.map_eq_some_iff.1 ht
    obtain rfl := GridTracks.css_injective htext
    obtain ⟨hcount, hsize⟩ := GridTracks.get_of_ofStyle? htracks
    obtain ⟨hcount', hsize'⟩ := GridTracks.get_of_ofStyle? htracks'
    exact ⟨hcount.trans hcount'.symm, hsize.trans hsize'.symm⟩
  cases p with
  | trackCount a => exact (hboth hs ht).1
  | trackSize a => exact (hboth hs ht).2
  | transform part =>
    obtain ⟨whole, hwhole, htext⟩ := Option.map_eq_some_iff.1 hs
    obtain ⟨whole', hwhole', rfl⟩ := Option.map_eq_some_iff.1 ht
    obtain rfl := Transform.css_injective htext
    rw [Transform.get_of_ofStyle? hwhole, Transform.get_of_ofStyle? hwhole']
  | _ => cases halone

/-- What was shown before makes a difference exactly if the style borrows some of it. -/
theorem declarations_complete_eq_iff :
    (s.complete ⟨some rendered, some s⟩).declarations = s.completed.declarations ↔
      ∀ p, ¬ s.Borrows (ofDeclarations rendered) p := by
  refine ⟨fun h p => ?_, fun h => by rw [complete_eq_completed h]⟩
  rintro ⟨hs, g, hp, htouched, x, hshown, hdefault⟩
  have howner := CompositeGroup.owner_ne_position_of_mem_members hp
  have htext (t : Style) :
      t.declarations.get? (CssProperty.owner p).name = (CssProperty.owner p).render? t :=
    (get?_declarations t _).trans (render?_shown_of_ne t howner)
  have hborrowed : (s.complete ⟨some rendered, some s⟩).get p = some x := by
    rw [get_complete_of_mem hs hp htouched, hshown, Option.some_or]
  have hcompleted : s.completed.get p = g.defaults.get p := by
    rw [get_completed, hs, Option.none_or, ← fillingFrom_empty, findSome?_fillingFrom hp,
      fillingFrom_empty, filling, if_pos htouched]
  -- what is rendered together with the borrowed value was shown together with it
  have hwhole : ∀ q, CssProperty.owner q = CssProperty.owner p →
      ((s.complete ⟨some rendered, some s⟩).get q).isSome = true := by
    intro q hq
    have hmem : q ∈ g.members := by
      rw [CompositeGroup.mem_members_iff, hq]
      exact CompositeGroup.mem_members_iff.1 hp
    cases hset : s.get q with
    | some y => rw [get_complete_self, hset, Option.some_or, Option.isSome_some]
    | none =>
      rw [get_complete_of_mem hset hmem htouched,
        get_ofDeclarations_of_owner_ne rendered (hq ▸ howner), Option.isSome_or,
        isSome_get_absorbed rendered hq, ← get_ofDeclarations_of_owner_ne rendered howner, hshown,
        Option.isSome_some, Bool.true_or]
  obtain ⟨value, hvalue⟩ := Option.isSome_iff_exists.1 (CssProperty.isSome_render?_iff.2 hwhole)
  have hvalue' : (CssProperty.owner p).render? s.completed = some value := by
    rw [← htext, ← h, htext, hvalue]
  cases halone : CssProperty.rendersAlone p with
  | true =>
    have hset : (s.completed.get p).isSome = true :=
      CssProperty.isSome_render?_iff.1 (by rw [hvalue', Option.isSome_some]) p rfl
    rw [hcompleted, CompositeGroup.get_defaults_of_rendersAlone halone] at hset
    cases hset
  | false =>
    rw [get_eq_of_render?_eq halone hvalue hvalue', hcompleted] at hborrowed
    exact hdefault hborrowed

/-- A default that was rendered is read back as the default, even among infinite numbers. -/
theorem get_contribution_of_default {value : String} {x : p.Value}
    (hdefault : g.defaults.get p = some x) (hx : s.get p = some x)
    (hvalue : (CssProperty.owner p).render? s = some value) :
    ((CssProperty.owner p).contribution value).get p = some x := by
  have hset : (g.defaults.get p).isSome = true := by rw [hdefault, Option.isSome_some]
  rcases CompositeGroup.owner_of_get_defaults hset with ⟨rfl, howner⟩ | ⟨rfl, a, rfl⟩
  · rw [howner] at hvalue ⊢
    obtain ⟨whole, hwhole, rfl⟩ := Option.map_eq_some_iff.1 hvalue
    cases hread : Value.transform whole.css with
    | error fault =>
      rw [CssProperty.contribution, CssProperty.read, hread]
      exact hdefault
    | ok t =>
      obtain ⟨-, rfl⟩ := (Value.transform_css_gives whole t).1 hread
      rw [CssProperty.contribution, CssProperty.read, hread]
      cases p with
      | transform part =>
        rw [← hx, Transform.get_of_ofStyle? hwhole part]
        exact whole.get_toStyle part
      | _ => cases howner
  · obtain ⟨tracks, htracks, rfl⟩ := Option.map_eq_some_iff.1 hvalue
    cases hread : Value.gridTemplate tracks.css with
    | error fault =>
      rw [CssProperty.owner, CssProperty.contribution, CssProperty.read, hread, ← hdefault]
      cases a <;> rfl
    | ok t =>
      obtain ⟨-, rfl⟩ := (Value.gridTemplate_css_gives tracks t).1 hread
      rw [CssProperty.owner, CssProperty.contribution, CssProperty.read, hread, ← hx,
        (GridTracks.get_of_ofStyle? htracks).2]
      exact tracks.get_toStyle_size a

/-- Of a style that sets no more than it does itself, a style borrows nothing. -/
theorem not_borrows_of_isCoveredBy {t : Style} (h : t.IsCoveredBy s) (p : Property) :
    ¬ s.Borrows (ofDeclarations t.completed.declarations) p := by
  rintro ⟨hs, g, hp, -, x, hshown, hdefault⟩
  have howner := CompositeGroup.owner_ne_position_of_mem_members hp
  have ht : t.get p = none := by
    rw [← Option.not_isSome_iff_eq_none]
    intro hset
    have hown := h p hset
    rw [hs] at hown
    cases hown
  rw [get_ofDeclarations_of_owner_ne _ howner, absorbed_declarations, get_settle,
    Option.bind_eq_some_iff] at hshown
  obtain ⟨value, hvalue, hx⟩ := hshown
  rw [render?_shown_of_ne _ howner] at hvalue
  -- the value was shown, so it was set, and as the style does not set it, it was a default
  have hset : (t.completed.get p).isSome = true :=
    CssProperty.isSome_render?_iff.1 (by rw [hvalue, Option.isSome_some]) p rfl
  obtain ⟨y, hy⟩ := Option.isSome_iff_exists.1 hset
  rcases get_completed_eq_some hy with hy' | ⟨g', -, hdefault'⟩
  · rw [ht] at hy'
    cases hy'
  · have hp' : p ∈ g'.members :=
      CompositeGroup.mem_members_of_get_defaults (by rw [hdefault', Option.isSome_some])
    obtain rfl := CompositeGroup.eq_of_mem_members hp hp'
    rw [get_contribution_of_default hdefault' hy hvalue] at hx
    exact hdefault (hdefault'.trans hx)

end Style

end Sitework
