import Sitework.Proofs.Style.Cascade

/-!
# The same values

Values of a property are the same if they are equal up to the signs of zeros and hold no NaN. So
each value has a plain form, in which no zero has a sign, and values without a NaN are the same
exactly if their plain forms are equal. Styles are compared property by property; merging them and
taking differences respects their plain forms.
-/

namespace Sitework

namespace Binary64

/-- The number, with a zero that has no sign. -/
def plain : Binary64 → Binary64
  | .finite negative x fits => .finite (negative && x.mantissa != 0) x fits
  | .infinite negative => .infinite negative
  | .nan => .nan

/-- Numbers are the same exactly if their plain forms are equal, unless they are NaNs. -/
theorem sameValue_iff {x y : Binary64} :
    sameValue x y = true ↔ x.plain = y.plain ∧ x.plain ≠ .nan := by
  cases x with
  | nan => simp [sameValue, plain]
  | infinite s => cases y <;> simp [sameValue, plain]
  | finite s x hx =>
    cases y with
    | infinite | nan => simp [sameValue, plain]
    | finite t y hy =>
      simp only [sameValue, plain, Bool.and_eq_true, beq_iff_eq, finite.injEq, ne_eq, reduceCtorEq,
        not_false_eq_true, and_true]
      constructor
      · rintro ⟨rfl, h⟩
        refine ⟨?_, rfl⟩
        cases s <;> cases t <;> simp_all
      · rintro ⟨h, rfl⟩
        refine ⟨rfl, ?_⟩
        cases s <;> cases t <;> simp_all

end Binary64

/-- The length, with a zero that has no sign. -/
def Length.plain : Length → Length
  | .px x => .px x.plain
  | x => x

/-- The track size, with a zero that has no sign. -/
def TrackSize.plain : TrackSize → TrackSize
  | .px x => .px x.plain
  | x => x

/-- The font size, with a zero that has no sign. -/
def FontSize.plain : FontSize → FontSize
  | .px x => .px x.plain
  | x => x

namespace Property

/-- The value of a property, with zeros that have no sign. -/
def plain : (p : Property) → p.Value → p.Value
  | .length _, x => Length.plain x
  | .trackSize _, x => TrackSize.plain x
  | .fontSize, x => FontSize.plain x
  | .transform _, x => Binary64.plain x
  | .borderStyle, x => x
  | .color _, x => x
  | .fontFamily, x => x
  | .fontWeight, x => x
  | .textAlign, x => x
  | .display, x => x
  | .flexDirection, x => x
  | .alignItems, x => x
  | .justifyContent, x => x
  | .trackCount _, x => x
  | .zIndex, x => x
  | .position, x => x

/-- Values of a property are the same exactly if their plain forms are equal and hold no NaN. -/
theorem sameValue_iff (p : Property) {x y : p.Value} :
    p.sameValue x y = true ↔ p.plain x = p.plain y ∧ .nan ∉ p.numbers (p.plain x) := by
  have hpixels (m n : Binary64) :
      (m == n) = true ↔ m.plain = n.plain ∧ Binary64.nan ∉ [m.plain] :=
    Binary64.sameValue_iff.trans (and_congr_right fun _ => Binary64.nan_not_mem_singleton.symm)
  cases p with
  | length q =>
    cases x <;> cases y <;>
      simp [sameValue, plain, numbers, Length.sameValue, Length.plain, hpixels]
  | trackSize a =>
    cases x <;> cases y <;>
      simp [sameValue, plain, numbers, TrackSize.sameValue, TrackSize.plain, hpixels]
  | fontSize =>
    cases x <;> cases y <;>
      simp [sameValue, plain, numbers, FontSize.sameValue, FontSize.plain, hpixels]
  | transform q => exact hpixels x y
  | _ => exact decide_eq_true_iff.trans (and_iff_left List.not_mem_nil).symm

/-- The plain form of a value holds a NaN exactly if the value does. -/
theorem nan_not_mem_numbers_plain {p : Property} {x : p.Value} :
    .nan ∉ p.numbers (p.plain x) ↔ .nan ∉ p.numbers x :=
  calc .nan ∉ p.numbers (p.plain x)
      ↔ p.plain x = p.plain x ∧ .nan ∉ p.numbers (p.plain x) := (and_iff_right rfl).symm
    _ ↔ p.sameValue x x = true := p.sameValue_iff.symm
    _ ↔ .nan ∉ p.numbers x := sameValue_self_iff

/-- A value that holds a NaN is the same as no other. -/
theorem sameValue_eq_false_of_nan {p : Property} {x : p.Value} (hx : .nan ∈ p.numbers x)
    (y : p.Value) : p.sameValue x y = false := by
  rw [Bool.eq_false_iff, ne_eq, p.sameValue_iff, nan_not_mem_numbers_plain]
  exact fun h => h.2 hx

/-- Whether a value is there and holds a NaN. -/
def IsNaN (p : Property) (value : Option p.Value) : Prop :=
  ∃ x, value = some x ∧ .nan ∈ p.numbers x

theorem not_isNaN_none (p : Property) : ¬ p.IsNaN none := by
  rintro ⟨x, hx, -⟩
  cases hx

/-- Of a value in front of another one, the first that is there holds the NaN. -/
theorem isNaN_or {p : Property} {first second : Option p.Value} :
    p.IsNaN (first.or second) ↔ p.IsNaN first ∨ first = none ∧ p.IsNaN second := by
  cases first with
  | none => simp [not_isNaN_none]
  | some x => simp [IsNaN]

end Property

namespace Style

/-- A style holds no NaN exactly if it has none for any property. -/
theorem hasNoNaN_iff {s : Style} : s.HasNoNaN ↔ ∀ p : Property, ¬ p.IsNaN (s.get p) := by
  refine forall_congr' fun p => ?_
  rw [Property.IsNaN, not_exists]
  exact forall_congr' fun x => not_and.symm

/-- The plain form of the value that a style has for a property. -/
def plainAt (s : Style) (p : Property) : Option p.Value :=
  (s.get p).map p.plain

/-- Styles have the same value of a property exactly if its plain forms are equal and hold no
NaN. -/
theorem sameAt_iff {s t : Style} {p : Property} : s.sameAt t p = true ↔
    s.plainAt p = t.plainAt p ∧ ∀ x, s.plainAt p = some x → .nan ∉ p.numbers x := by
  rw [sameAt, plainAt, plainAt]
  cases s.get p with
  | none => cases t.get p <;> simp
  | some x =>
    cases t.get p with
    | none => simp
    | some y => simp only [Option.map_some, Option.some_inj, forall_eq', p.sameValue_iff]

/-- A style holds a NaN exactly if a plain form of its values does. -/
theorem hasNoNaN_iff_plainAt {s : Style} :
    s.HasNoNaN ↔ ∀ p x, s.plainAt p = some x → .nan ∉ p.numbers x := by
  refine forall_congr' fun p => ?_
  rw [plainAt]
  cases s.get p with
  | none => exact iff_of_true nofun nofun
  | some x =>
    simp only [Option.map_some, Option.some_inj, forall_eq', Property.nan_not_mem_numbers_plain]

/-- Styles have the same values exactly if the plain forms of these are equal and none is a NaN. -/
theorem sameValues_iff {s t : Style} :
    s.sameValues t = true ↔ (∀ p, s.plainAt p = t.plainAt p) ∧ s.HasNoNaN := by
  simp only [sameValues, List.all_eq_true, sameAt_iff, hasNoNaN_iff_plainAt, ← forall_and]
  exact ⟨fun h p => h p p.mem_all, fun h p _ => h p⟩

/-- Of styles with the same plain values, both hold a NaN or none does. -/
theorem HasNoNaN.congr {s t : Style} (h : s.HasNoNaN) (hplain : ∀ p, s.plainAt p = t.plainAt p) :
    t.HasNoNaN := by
  rw [hasNoNaN_iff_plainAt] at h ⊢
  simpa only [hplain] using h

theorem plainAt_merge (s t : Style) (p : Property) :
    (s.merge t).plainAt p = (t.plainAt p).or (s.plainAt p) := by
  rw [plainAt, get_merge, Option.map_or]
  rfl

theorem sameAt_congr {s t u v : Style} {p : Property} (hsu : s.plainAt p = u.plainAt p)
    (htv : t.plainAt p = v.plainAt p) : s.sameAt t p = u.sameAt v p := by
  rw [Bool.eq_iff_iff, sameAt_iff, sameAt_iff, hsu, htv]

/-- A difference has exactly the values that are not the same as those of the base. -/
theorem get_diff_eq_ite (s base : Style) (p : Property) :
    (s.diff base).get p = if s.sameAt base p then none else s.get p := by
  rw [get_diff, sameAt]
  cases s.get p with
  | none => rw [ite_self]
  | some x => cases base.get p <;> rfl

theorem plainAt_diff (s base : Style) (p : Property) :
    (s.diff base).plainAt p = if s.sameAt base p then none else s.plainAt p := by
  rw [plainAt, get_diff_eq_ite]
  split <;> rfl

/-- On top of the base, a difference has the same values as the style. -/
theorem plainAt_merge_diff (s base : Style) (p : Property) :
    (base.merge (s.diff base)).plainAt p = (base.merge s).plainAt p := by
  rw [plainAt_merge, plainAt_merge, plainAt_diff]
  split
  · next hsame => rw [(sameAt_iff.1 hsame).1, Option.none_or, Option.or_self]
  · rfl

/-- A difference depends on the base up to the signs of zeros. -/
theorem diff_congr_right (s : Style) {base other : Style}
    (h : ∀ p, base.plainAt p = other.plainAt p) : s.diff base = s.diff other := by
  refine ext_get fun p => ?_
  rw [get_diff_eq_ite, get_diff_eq_ite, sameAt_congr rfl (h p)]

/-- What a style adds to a base without a NaN is what it has besides the base when it is put on
it. -/
theorem diff_merge (s : Style) {base : Style} (hbase : base.HasNoNaN) :
    (base.merge s).diff base = s.diff base := by
  refine ext_get fun p => ?_
  rw [get_diff_eq_ite, get_diff_eq_ite, get_merge]
  cases hvalue : s.get p with
  | none =>
    have hunset : s.plainAt p = none := congrArg (Option.map p.plain) hvalue
    have hsame : (base.merge s).plainAt p = base.plainAt p := by
      rw [plainAt_merge, hunset, Option.none_or]
    have hself : base.sameAt base p = true :=
      sameAt_iff.2 ⟨rfl, hasNoNaN_iff_plainAt.1 hbase p⟩
    rw [sameAt_congr hsame rfl, if_pos hself, ite_self]
  | some x =>
    have hset : s.plainAt p = some (p.plain x) := congrArg (Option.map p.plain) hvalue
    have hown : (base.merge s).plainAt p = s.plainAt p := by
      rw [plainAt_merge, hset, Option.some_or]
    rw [sameAt_congr hown rfl, Option.some_or]

/-- A style without a NaN adds nothing to itself. -/
theorem diff_self {s : Style} (h : s.HasNoNaN) : s.diff s = empty := by
  have hsame := sameValues_self_iff.2 h
  refine ext_get fun p => ?_
  rw [get_diff_eq_ite, if_pos (List.all_eq_true.1 hsame p p.mem_all), get_empty]

/-- Two layers are both absent, or both there with the same values. -/
def SameLayer (own other : Option Style) : Prop :=
  Option.Rel (fun s t => s.sameValues t = true) own other

/-- Of styles with the same values, either both set something or none does. -/
theorem sameLayer_nonempty {s t : Style} (h : s.sameValues t = true) :
    SameLayer s.nonempty t.nonempty := by
  have hempty : s.isEmpty = t.isEmpty := by
    have hset (p : Property) : (s.get p).isSome = (t.get p).isSome := by
      have hp : (s.get p).map p.plain = (t.get p).map p.plain := (sameValues_iff.1 h).1 p
      rw [← Option.isSome_map, hp, Option.isSome_map]
    simp only [isEmpty, properties, hset]
  rw [nonempty, nonempty, hempty]
  split
  · exact .none
  · exact .some h

end Style

end Sitework
