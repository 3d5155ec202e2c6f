import Sitework.Proofs.Style.LastShown

/-!
# What an incomplete group leaves open

A style that sets some members of a group and not all takes the others from present values, and
then what is declared for the group depends on these. Everything else is declared by the style
alone: in a group that it sets as a whole, in one that it does not touch, and outside of groups.
-/

namespace Sitework

namespace CompositeGroup

/-- Whether a style sets some members of the group, but not all of them. -/
def isOpenIn (g : CompositeGroup) (s : Style) : Bool :=
  g.touchedBy s && g.members.any fun p => (s.get p).isNone

end CompositeGroup

namespace Style

variable {s t : Style} {p : Property}

/-- Whether a name is declared for a group of which the style sets some members, but not all. -/
def isOpenAt (s : Style) (name : String) : Bool :=
  ((CssProperty.ofName? name).bind CompositeGroup.ofOwner?).any (·.isOpenIn s)

/-- The group of a property is open where its name is. -/
theorem isOpenIn_of_mem {g : CompositeGroup}
    (h : s.isOpenAt (CssProperty.owner p).name = false) (hp : p ∈ g.members) :
    g.isOpenIn s = false := by
  rw [CompositeGroup.mem_members_iff] at hp
  rwa [isOpenAt, CssProperty.ofName?_name, Option.bind_some, hp, Option.any_some] at h

/-- The properties of a name that is not open keep their values, whatever is present. -/
theorem get_complete_of_isOpenAt (source : PresentStyle)
    (h : s.isOpenAt (CssProperty.owner p).name = false) :
    (s.complete source).get p = s.get p := by
  cases hs : s.get p with
  | some x => rw [get_complete, hs, Option.some_or]
  | none =>
    rw [get_complete_of_untouched, hs]
    intro g hp
    have hunset : (g.members.any fun q => (s.get q).isNone) = true :=
      List.any_eq_true.2 ⟨p, hp, by rw [hs, Option.isNone_none]⟩
    have hclosed := isOpenIn_of_mem h hp
    rwa [CompositeGroup.isOpenIn, hunset, Bool.and_true] at hclosed

/-- Where styles have the same values they declare the same, in the same order. -/
theorem filter_declarations_congr (keep : String → Bool) (hz : s.zIndex = t.zIndex)
    (h : ∀ p, keep (CssProperty.owner p).name = true → s.get p = t.get p) :
    s.declarations.filter (fun name _ => keep name) =
      t.declarations.filter (fun name _ => keep name) := by
  apply OrderedMap.ext
  change s.declarations.entries.filter _ = t.declarations.entries.filter _
  rw [entries_declarations, entries_declarations, rendered, rendered, List.filter_append,
    List.filter_append, List.filter_filterMap, List.filter_filterMap]
  congr 1
  · refine List.filterMap_congr fun d _ => ?_
    cases hkeep : keep d.name with
    | true =>
      have hrender : d.render? s = d.render? t :=
        CssProperty.render?_congr fun p hp => h p (hp ▸ hkeep)
      rw [hrender]
    | false =>
      have hdrop (value : Option String) :
          (value.map (d.name, ·)).filter (fun entry => keep entry.1) = none := by
        cases value with
        | none => rfl
        | some value => exact Option.filter_some_neg (by simpa using hkeep)
      rw [hdrop, hdrop]
  · -- the implied position is declared at the end
    cases hkeep : keep CssProperty.position.name with
    | true =>
      have hposition : s.position = t.position := h .position hkeep
      rw [impliesPosition, impliesPosition, hz, hposition]
    | false => split <;> split <;> simp [hkeep]

/-- Whatever is present, what is declared under names that are not open is what the style itself
declares under them. -/
theorem filter_declarations_complete (s : Style) (source : PresentStyle) :
    (s.complete source).declarations.filter (fun name _ => !s.isOpenAt name) =
      s.declarations.filter (fun name _ => !s.isOpenAt name) := by
  apply filter_declarations_congr fun name => !s.isOpenAt name
  · exact get_complete_of_isOpenAt (p := .zIndex) source rfl
  · exact fun p hp => get_complete_of_isOpenAt source (Bool.not_eq_true' _ ▸ hp)

end Style

end Sitework
