import Sitework.Proofs.Style.Cascade

/-!
# Groups completed from the style itself

A group of properties that a style touches is completed with the values last shown, and these with
defaults. When nothing was rendered before, this adds a transform that changes nothing and track
sizes, and leaves what is set as it is; a style in which groups are whole renders as it did.
-/

namespace Sitework

namespace CssProperty

/-- To each rendered property belongs a value other than the size of a track. -/
theorem exists_owner (d : CssProperty) : ∃ p, owner p = d ∧ ∀ a, p ≠ .trackSize a := by
  cases hsingle : d.single? with
  | some c =>
    refine ⟨c.property, c.owner_eq, fun a heq => ?_⟩
    have halone := c.alone
    rw [heq] at halone
    cases halone
  | none =>
    cases d with
    | gridTemplate a => exact ⟨.trackCount a, rfl, nofun⟩
    | transform => exact ⟨.transform .left, rfl, nofun⟩
    | _ => cases hsingle

end CssProperty

namespace CompositeGroup

/-- Only the parts of the transform and the sizes of tracks have defaults. -/
theorem owner_of_get_defaults {g : CompositeGroup} {p : Property}
    (h : (g.defaults.get p).isSome = true) :
    g = .transform ∧ CssProperty.owner p = .transform ∨ g = .grid ∧ ∃ a, p = .trackSize a := by
  cases g with
  | transform =>
    refine .inl ⟨rfl, ?_⟩
    by_contra hp
    rw [defaults, Transform.get_toStyle_of_owner_ne _ hp] at h
    exact Bool.false_ne_true h
  | grid =>
    refine .inr ⟨rfl, ?_⟩
    cases p with
    | trackSize a => exact ⟨a, rfl⟩
    | length q => cases q <;> cases h
    | color q => cases q <;> cases h
    | trackCount a => cases a <;> cases h
    | transform q => cases q <;> cases h
    | _ => cases h
  | flex =>
    rw [defaults, Style.get_empty] at h
    exact absurd h Bool.false_ne_true

/-- A group that a style touches is touched by a style that sets more. -/
theorem touchedBy_of_isCoveredBy {g : CompositeGroup} {s t : Style} (hst : s.IsCoveredBy t)
    (h : g.touchedBy s = true) : g.touchedBy t = true := by
  rw [touchedBy, List.any_eq_true] at h ⊢
  obtain ⟨p, hp, hset⟩ := h
  exact ⟨p, hp, hst p hset⟩

end CompositeGroup

namespace Style

/-- What was last rendered, read back. -/
def lastShown (rendered : Option Declarations) : Style :=
  (rendered.map ofDeclarations).getD empty

@[simp] theorem lastShown_some (rendered : Declarations) :
    lastShown (some rendered) = ofDeclarations rendered := rfl

/-- What a group adds to an update for a property: its present value, if the update touches it. -/
def addedFrom (update : Style) (source : PresentStyle) (p : Property) (g : CompositeGroup) :
    Option p.Value :=
  if g.touchedBy update then (g.present source).get p else none

/-- A value that an update sets stays; another one is added by the first group that has one. -/
theorem get_complete (update : Style) (source : PresentStyle) (p : Property) :
    (update.complete source).get p =
      (update.get p).or (CompositeGroup.all.findSome? (update.addedFrom source p)) := by
  have hstep (s : Style) (g : CompositeGroup) :
      (g.completeFor update source s).get p = (s.get p).or (update.addedFrom source p g) := by
    rw [CompositeGroup.completeFor, addedFrom]
    split
    · rw [get_merge]
    · rw [Option.or_none]
  have hfold (gs : List CompositeGroup) (s : Style) :
      (gs.foldl (CompositeGroup.completeFor update source) s).get p =
        (s.get p).or (gs.findSome? (update.addedFrom source p)) := by
    induction gs generalizing s with
    | nil => rw [List.foldl_nil, List.findSome?_nil, Option.or_none]
    | cons g gs ih =>
      rw [List.foldl_cons, ih, hstep, Option.or_assoc, List.findSome?_cons]
      cases update.addedFrom source p g <;> rfl
  exact hfold _ update

/-- What a group adds for a property: the value last shown, or else the default. -/
def fillingFrom (s shown : Style) (p : Property) (g : CompositeGroup) : Option p.Value :=
  if g.touchedBy s then ((g.part shown).get p).or (g.defaults.get p) else none

/-- A style that is completed from itself keeps what it sets; another value is filled by the first
group that has one for it. -/
theorem get_complete_self (s : Style) (rendered : Option Declarations) (p : Property) :
    (s.complete ⟨rendered, some s⟩).get p =
      (s.get p).or (CompositeGroup.all.findSome? (s.fillingFrom (lastShown rendered) p)) := by
  rw [get_complete]
  cases hp : s.get p with
  | some x => rw [Option.some_or, Option.some_or]
  | none =>
    have hsame : s.addedFrom ⟨rendered, some s⟩ p = s.fillingFrom (lastShown rendered) p := by
      funext g
      have hmodel : (g.part s).get p = none := by
        rw [CompositeGroup.part, get_restrict, hp, ite_self]
      simp only [addedFrom, CompositeGroup.present, get_merge, Option.getD_some, hmodel,
        Option.none_or]
      rfl
    rw [hsame]

/-- The style with the groups that it touches completed by defaults. -/
def completed (s : Style) : Style :=
  s.complete ⟨none, some s⟩

/-- The default that a group adds for a property. -/
def filling (s : Style) (p : Property) (g : CompositeGroup) : Option p.Value :=
  if g.touchedBy s then g.defaults.get p else none

/-- With nothing shown before, what is added are defaults. -/
theorem fillingFrom_empty (s : Style) (p : Property) : s.fillingFrom empty p = s.filling p := by
  funext g
  rw [fillingFrom, filling, CompositeGroup.part, get_restrict, get_empty, ite_self, Option.none_or]

/-- Where nothing was rendered before, a value is filled by the first group that has a default. -/
theorem get_completed (s : Style) (p : Property) :
    s.completed.get p = (s.get p).or (CompositeGroup.all.findSome? (s.filling p)) := by
  rw [completed, get_complete_self, ← fillingFrom_empty]
  rfl

/-- Completing leaves the values that are set. -/
theorem get_completed_of_isSome {s : Style} {p : Property} (h : (s.get p).isSome = true) :
    s.completed.get p = s.get p := by
  obtain ⟨x, hx⟩ := Option.isSome_iff_exists.1 h
  rw [get_completed, hx, Option.some_or]

/-- A value of a completed style is one of the style or a default. -/
theorem get_completed_eq_some {s : Style} {p : Property} {x : p.Value}
    (h : s.completed.get p = some x) :
    s.get p = some x ∨ ∃ g : CompositeGroup, g.touchedBy s = true ∧ g.defaults.get p = some x := by
  rw [get_completed, Option.or_eq_some_iff] at h
  rcases h with h | ⟨-, h⟩
  · exact .inl h
  · obtain ⟨g, -, hg⟩ := List.exists_of_findSome?_eq_some h
    rw [filling] at hg
    split at hg
    · next htouched => exact .inr ⟨g, htouched, hg⟩
    · exact absurd hg (Option.some_ne_none x).symm

/-- Nothing is filled but the parts of the transform and the sizes of tracks. -/
theorem get_completed_of_owner_ne (s : Style) {p : Property} (hsize : ∀ a, p ≠ .trackSize a)
    (htransform : CssProperty.owner p ≠ .transform) : s.completed.get p = s.get p := by
  rw [get_completed]
  have hnone : CompositeGroup.all.findSome? (s.filling p) = none := by
    rw [List.findSome?_eq_none_iff]
    intro g _
    rw [filling]
    split
    · by_contra hset
      rcases CompositeGroup.owner_of_get_defaults (Option.isSome_iff_ne_none.2 hset) with
        ⟨-, howner⟩ | ⟨-, a, ha⟩
      · exact htransform howner
      · exact hsize a ha
    · rfl
  rw [hnone, Option.or_none]

/-- A completed style sets what the style sets. -/
theorem isCoveredBy_completed (s : Style) : s.IsCoveredBy s.completed := by
  intro p h
  rwa [get_completed_of_isSome h]

/-- Completing keeps the order of styles by what they set. -/
theorem IsCoveredBy.completed {s t : Style} (h : s.IsCoveredBy t) :
    s.completed.IsCoveredBy t.completed := by
  intro p hp
  obtain ⟨x, hx⟩ := Option.isSome_iff_exists.1 hp
  rcases get_completed_eq_some hx with hx | ⟨g, htouched, hg⟩
  · exact isCoveredBy_completed t p (h p (by rw [hx]; rfl))
  · rw [get_completed, Option.isSome_or, Bool.or_eq_true]
    refine .inr ?_
    rw [List.findSome?_isSome_iff]
    refine ⟨g, by cases g <;> decide, ?_⟩
    rw [filling, if_pos (CompositeGroup.touchedBy_of_isCoveredBy h htouched), hg]
    rfl

/-- A style in which groups are whole renders the same when it is completed. -/
theorem IsSettled.render?_completed {s : Style} (h : s.IsSettled) (d : CssProperty) :
    d.render? s.completed = d.render? s := by
  by_cases hall : ∀ p, CssProperty.owner p = d → (s.get p).isSome = true
  · exact CssProperty.render?_congr fun p hp => get_completed_of_isSome (hall p hp)
  · have hnone : ∀ p, CssProperty.owner p = d → s.get p = none := by
      simp only [not_forall] at hall
      obtain ⟨q, hq, hset⟩ := hall
      intro p hp
      rw [← Option.not_isSome_iff_eq_none, h.whole p q (hp.trans hq.symm)]
      exact hset
    have hfalse (t : Style) (ht : ∃ p, CssProperty.owner p = d ∧ t.get p = none) :
        d.render? t = none := by
      obtain ⟨p, hp, hget⟩ := ht
      rw [← Option.not_isSome_iff_eq_none, CssProperty.isSome_render?_iff]
      intro hset
      have hp := hset p hp
      rw [hget] at hp
      exact Bool.false_ne_true hp
    -- a group of which nothing is set is not filled so far that it renders
    have hopen : ∃ p, CssProperty.owner p = d ∧ s.completed.get p = none := by
      obtain ⟨p, hp, hsize⟩ := d.exists_owner
      refine ⟨p, hp, ?_⟩
      by_contra hset
      obtain ⟨x, hx⟩ := Option.ne_none_iff_exists'.1 hset
      rcases get_completed_eq_some hx with hx | ⟨g, htouched, hg⟩
      · exact Option.some_ne_none x (hx.symm.trans (hnone p hp))
      · have hdefault : (g.defaults.get p).isSome = true := by rw [hg]; rfl
        rcases CompositeGroup.owner_of_get_defaults hdefault with ⟨rfl, howner⟩ | ⟨-, a, ha⟩
        · rw [CompositeGroup.touchedBy, List.any_eq_true] at htouched
          obtain ⟨q, hq, hqset⟩ := htouched
          obtain ⟨part, -, rfl⟩ := List.mem_map.1 hq
          rw [hnone (.transform part) (howner.symm.trans hp)] at hqset
          exact Bool.false_ne_true hqset
        · exact hsize a ha
    have hsome : ∃ p, CssProperty.owner p = d ∧ s.get p = none := by
      obtain ⟨p, hp, -⟩ := hopen
      exact ⟨p, hp, hnone p hp⟩
    rw [hfalse _ hopen, hfalse _ hsome]

end Style

namespace Element

/-- The declarations at a breakpoint are those of the style in force, with its groups completed. -/
theorem declarationsAt_none (e : Element) (b : Breakpoint) :
    e.declarationsAt b none = (e.resolvedStyle b).completed.declarations := rfl

end Element

end Sitework
