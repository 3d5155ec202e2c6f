import Sitework.Element
import Sitework.Proofs.Style.Codec
import Sitework.Proofs.Style.Numbers

/-!
# The cascade, one breakpoint at a time

Each breakpoint below the base puts its own layer on what is in force at the next wider one. So
what is set at a breakpoint is set at every narrower one, and the same holds for what is declared
there: completing groups and showing an implied position only add to a style.
-/

namespace Sitework

namespace Style

/-- A difference has the values that the other style does not have. -/
theorem get_diff (s base : Style) (p : Property) :
    (s.diff base).get p =
      match s.get p, base.get p with
      | some x, some y => if p.sameValue x y then none else some x
      | x, _ => x :=
  get_ofFunction _ p

/-- It has the value where the other style has none. -/
theorem get_diff_of_none {s base : Style} {p : Property} (h : base.get p = none) :
    (s.diff base).get p = s.get p := by
  rw [get_diff, h]
  cases s.get p <;> rfl

/-- On top of the base, a difference sets what the style or the base sets. -/
theorem isSome_get_merge_diff (s base : Style) (p : Property) :
    ((base.merge (s.diff base)).get p).isSome = ((s.get p).isSome || (base.get p).isSome) := by
  rw [get_merge, get_diff]
  cases s.get p with
  | none => simp
  | some x =>
    cases base.get p with
    | none => rfl
    | some y =>
      simp only
      split <;> rfl

/-- A difference put on the base differs from it by the same values, unless the base holds a NaN,
which differs from itself. -/
theorem diff_merge_diff (s : Style) {base : Style} (hbase : base.HasNoNaN) :
    (base.merge (s.diff base)).diff base = s.diff base := by
  refine ext_get fun p => ?_
  have hself (y : p.Value) (hy : base.get p = some y) : p.sameValue y y = true :=
    Property.sameValue_self_iff.2 (hbase p y hy)
  rw [get_diff, get_merge, get_diff]
  cases s.get p with
  | none =>
    cases hy : base.get p with
    | none => rfl
    | some y => simp [hself y hy]
  | some x =>
    cases hy : base.get p with
    | none => rfl
    | some y =>
      by_cases hsame : p.sameValue x y = true
      · simp [hsame, hself y hy]
      · simp [hsame]

@[simp] theorem merge_empty (s : Style) : s.merge empty = s := by
  refine ext_get fun p => ?_
  rw [get_merge, get_empty, Option.none_or]

/-- A style that sets nothing is the empty one. -/
theorem eq_empty_of_isEmpty {s : Style} (h : s.isEmpty = true) : s = empty := by
  refine ext_get fun p => ?_
  simp only [isEmpty, properties, List.isEmpty_iff, List.filter_eq_nil_iff] at h
  rw [get_empty]
  simpa using h p p.mem_all

/-- The style, unless it sets nothing. -/
def nonempty (s : Style) : Option Style :=
  if s.isEmpty then none else some s

theorem ite_isSome_nonempty (s : Style) :
    (if s.nonempty.isSome then s.nonempty else none) = s.nonempty := by
  cases s.nonempty <;> rfl

/-- Everything that one style sets is set by the other. -/
def IsCoveredBy (s t : Style) : Prop :=
  ∀ p, (s.get p).isSome = true → (t.get p).isSome = true

theorem IsCoveredBy.refl (s : Style) : s.IsCoveredBy s :=
  fun _ h => h

theorem IsCoveredBy.trans {s t u : Style} (hst : s.IsCoveredBy t) (htu : t.IsCoveredBy u) :
    s.IsCoveredBy u :=
  fun p h => htu p (hst p h)

/-- A merged style sets what the lower one sets. -/
theorem isCoveredBy_merge (s t : Style) : s.IsCoveredBy (s.merge t) := by
  intro p h
  rw [get_merge, Option.isSome_or, h, Bool.or_true]

/-- What a style renders something for, a style that sets more does as well. -/
theorem IsCoveredBy.isSome_render? {s t : Style} (h : s.IsCoveredBy t) {d : CssProperty}
    (hd : (d.render? s).isSome = true) : (d.render? t).isSome = true := by
  rw [CssProperty.isSome_render?_iff] at hd ⊢
  exact fun p hp => h p (hd p hp)

/-- What is shown of a style is covered by what is shown of a covering one. -/
theorem IsCoveredBy.shown {s t : Style} (h : s.IsCoveredBy t) : s.shown.IsCoveredBy t.shown := by
  intro p hp
  by_cases hposition : p = .position
  · subst hposition
    have hz : s.zIndex.isSome = true → t.zIndex.isSome = true := h .zIndex
    have hown : s.position.isSome = true → t.position.isSome = true := h .position
    change s.shown.position.isSome = true at hp
    change t.shown.position.isSome = true
    rw [isSome_position_shown, Bool.or_eq_true] at hp ⊢
    exact hp.imp hz hown
  · rw [Style.shown, get_withPosition_of_ne _ _ hposition] at hp ⊢
    exact h p hp

end Style

namespace Breakpoint

/-- The next wider class. -/
def wider? : Breakpoint → Option Breakpoint
  | .smartphone => some .tablet
  | .tablet => some .laptop
  | .laptop => some .monitor
  | .monitor => none

theorem eq_monitor_of_wider? {b : Breakpoint} (h : b.wider? = none) : b = .monitor := by
  cases b <;> first | rfl | cases h

theorem ne_monitor_of_wider? {b w : Breakpoint} (h : b.wider? = some w) : b ≠ .monitor := by
  rintro rfl
  cases h

/-- A class reaches down to another one if it is that class or reaches down to the next wider. -/
theorem contains_iff_of_wider {b w : Breakpoint} (h : b.wider? = some w) (c : Breakpoint) :
    c.contains b = true ↔ c = b ∨ c.contains w = true := by
  cases b <;> cases h <;> cases c <;> decide

/-- The base reaches down to every class. -/
theorem monitor_contains (b : Breakpoint) : monitor.contains b = true := by
  cases b <;> rfl

/-- A class reaches down to the next narrower one. -/
theorem contains_of_wider {b w : Breakpoint} (h : b.wider? = some w) : w.contains b = true := by
  cases b <;> cases h <;> rfl

/-- What holds at the base and passes from each class to the next narrower one holds at all. -/
theorem widestFirst {P : Breakpoint → Prop} (base : P .monitor)
    (step : ∀ b w, b.wider? = some w → P w → P b) (b : Breakpoint) : P b := by
  have hlaptop : P .laptop := step _ _ rfl base
  have htablet : P .tablet := step _ _ rfl hlaptop
  cases b with
  | monitor => exact base
  | laptop => exact hlaptop
  | tablet => exact htablet
  | smartphone => exact step _ _ rfl htablet

end Breakpoint

namespace Cascade

/-- A style with a layer on it, if there is one. -/
def cover (s : Style) : Option Style → Style
  | none => s
  | some layer => s.merge layer

/-- A layer that is left out if it is empty covers like the layer. -/
theorem cover_nonempty (s layer : Style) : cover s layer.nonempty = s.merge layer := by
  rw [Style.nonempty]
  split
  · next h => rw [Style.eq_empty_of_isEmpty h, Style.merge_empty]; rfl
  · rfl

/-- At a breakpoint its layer is on what is in force at the next wider one. -/
theorem resolve_eq_cover (base : Style) (overrides : Overrides) {b w : Breakpoint}
    (h : b.wider? = some w) :
    resolve base overrides b = cover (resolve base overrides w) (overrides.get b) := by
  cases b with
  | monitor => cases h
  | laptop =>
    cases h
    simp only [resolve, layers, Breakpoint.responsive, Layers.get]
    cases overrides.laptop <;> rfl
  | tablet =>
    cases h
    simp only [resolve, layers, Breakpoint.responsive, Layers.get]
    cases overrides.laptop <;> cases overrides.tablet <;> rfl
  | smartphone =>
    cases h
    simp only [resolve, layers, Breakpoint.responsive, Layers.get]
    cases overrides.laptop <;> cases overrides.tablet <;> cases overrides.smartphone <;> rfl

/-- Without its layer, a breakpoint has what is in force at the next wider one. -/
theorem inherited_eq_resolve (base : Style) (overrides : Overrides) {b w : Breakpoint}
    (h : b.wider? = some w) : inherited base overrides b = resolve base overrides w := by
  cases b with
  | monitor => cases h
  | laptop =>
    cases h
    simp only [inherited, resolve, layers, Breakpoint.responsive]
    rfl
  | tablet =>
    cases h
    simp only [inherited, resolve, layers, Breakpoint.responsive, Layers.get]
    cases overrides.laptop <;> rfl
  | smartphone =>
    cases h
    simp only [inherited, resolve, layers, Breakpoint.responsive, Layers.get]
    cases overrides.laptop <;> cases overrides.tablet <;> rfl

/-- What is in force depends on the layers below the base only. -/
theorem resolve_congr (base : Style) {overrides other : Overrides}
    (h : ∀ b, b ≠ .monitor → overrides.get b = other.get b) (b : Breakpoint) :
    resolve base overrides b = resolve base other b := by
  induction b using Breakpoint.widestFirst with
  | base => rfl
  | step b w hw ih =>
    rw [resolve_eq_cover base overrides hw, resolve_eq_cover base other hw, ih,
      h b (Breakpoint.ne_monitor_of_wider? hw)]

/-- What is inherited depends on the layers of the wider breakpoints only. -/
theorem inherited_congr (base : Style) {overrides other : Overrides} {b : Breakpoint}
    (h : ∀ c, c ≠ b → c.contains b = true → overrides.get c = other.get c) :
    inherited base overrides b = inherited base other b := by
  have hlayers : layers overrides (fun c => c.contains b && c != b) =
      layers other (fun c => c.contains b && c != b) := by
    have hlayer (c : Breakpoint) :
        (if c.contains b && c != b then overrides.get c else none) =
          if c.contains b && c != b then other.get c else none := by
      split
      · next hc =>
        rw [Bool.and_eq_true, bne_iff_ne] at hc
        exact h c hc.2 hc.1
      · rfl
    simp only [layers, hlayer]
  simp only [inherited, hlayers]

section Steps

variable (rule : Breakpoint → Option Style → Style → Option Style)
  {step : Overrides → Breakpoint → Overrides} {base : Style}
  (hstep : ∀ overrides b c, (step overrides b).get c =
    if c = b then rule b (overrides.get b) (inherited base overrides b) else overrides.get c)
include hstep

/-- Steps that each decide about one layer leave those of other breakpoints as they are. -/
theorem get_foldl_of_not_mem {bs : List Breakpoint} {c : Breakpoint} (hc : c ∉ bs)
    (overrides : Overrides) : (bs.foldl step overrides).get c = overrides.get c := by
  induction bs generalizing overrides with
  | nil => rfl
  | cons b bs ih =>
    simp only [List.mem_cons, not_or] at hc
    rw [List.foldl_cons, ih hc.2, hstep, if_neg hc.1]

/-- Steps that each decide about one layer, wider ones first, decide on what the finished layers
give each breakpoint to inherit. -/
theorem get_foldl_of_mem {bs : List Breakpoint}
    (hbs : bs.Pairwise fun b c => c ≠ b ∧ c.contains b = false) {b : Breakpoint} (hb : b ∈ bs)
    (overrides : Overrides) :
    (bs.foldl step overrides).get b =
      rule b (overrides.get b) (inherited base (bs.foldl step overrides) b) := by
  induction bs generalizing overrides with
  | nil => exact absurd hb List.not_mem_nil
  | cons first bs ih =>
    rw [List.pairwise_cons] at hbs
    rw [List.foldl_cons]
    rcases List.mem_cons.1 hb with rfl | hmem
    · have hfirst : b ∉ bs := fun h => (hbs.1 b h).1 rfl
      -- what is decided later is narrower, so it is not inherited here
      have hinherited : inherited base (bs.foldl step (step overrides b)) b =
          inherited base overrides b := by
        refine inherited_congr base fun c hne hcontains => ?_
        have hc : c ∉ bs := by
          intro h
          rw [(hbs.1 c h).2] at hcontains
          exact Bool.false_ne_true hcontains
        rw [get_foldl_of_not_mem rule hstep hc, hstep, if_neg hne]
      rw [hinherited, get_foldl_of_not_mem rule hstep hfirst, hstep, if_pos rfl]
    · have hne : b ≠ first := (hbs.1 b hmem).1
      rw [ih hbs.2 hmem, hstep, if_neg hne]

/-- The base has no step of its own. -/
theorem get_foldl_responsive_monitor (overrides : Overrides) :
    (Breakpoint.responsive.foldl step overrides).get .monitor = overrides.get .monitor :=
  get_foldl_of_not_mem rule hstep (by decide) overrides

/-- The layer of a breakpoint is decided from what is in force at the next wider one. -/
theorem get_foldl_responsive (overrides : Overrides) {b w : Breakpoint}
    (h : b.wider? = some w) :
    (Breakpoint.responsive.foldl step overrides).get b =
      rule b (overrides.get b) (resolve base (Breakpoint.responsive.foldl step overrides) w) := by
  have hb : b ∈ Breakpoint.responsive := by
    cases b with
    | monitor => cases h
    | _ => decide
  rw [← inherited_eq_resolve _ _ h]
  exact get_foldl_of_mem rule hstep (by decide) hb overrides

end Steps

/-- What is set at the next wider breakpoint is set at a breakpoint. -/
theorem isCoveredBy_resolve_of_wider (base : Style) (overrides : Overrides) {b w : Breakpoint}
    (h : b.wider? = some w) :
    (resolve base overrides w).IsCoveredBy (resolve base overrides b) := by
  rw [resolve_eq_cover base overrides h]
  cases overrides.get b with
  | none => exact .refl _
  | some layer => exact Style.isCoveredBy_merge _ _

/-- What is set at a breakpoint is set at every one that it reaches down to. -/
theorem isCoveredBy_resolve_of_contains (base : Style) (overrides : Overrides)
    {b c : Breakpoint} (h : c.contains b = true) :
    (resolve base overrides c).IsCoveredBy (resolve base overrides b) := by
  induction b using Breakpoint.widestFirst with
  | base =>
    obtain rfl : c = .monitor := by cases c <;> first | rfl | cases h
    exact .refl _
  | step b w hw ih =>
    rcases (Breakpoint.contains_iff_of_wider hw c).1 h with rfl | hwider
    · exact .refl _
    · exact (ih hwider).trans (isCoveredBy_resolve_of_wider base overrides hw)

end Cascade

end Sitework
