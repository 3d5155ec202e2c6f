import Sitework.Proofs.Style.Codec

/-!
# Numbers in styles

A value that holds a number equals itself unless that number is a NaN, and any other value equals
itself. So a style has the same values as itself exactly if it holds no NaN. Declarations give none,
whatever their texts are: a numeral is read as a finite number or an infinite one, and the values
that stand in for an unreadable text are plain.
-/

namespace Sitework

namespace Binary64

/-- The number closest to a magnitude is a number. -/
theorem ofMagnitude_ne_nan (negative : Bool) (x : Magnitude) : ofMagnitude negative x ≠ .nan := by
  intro h
  rw [ofMagnitude] at h
  split at h <;> cases h

theorem nan_not_mem_singleton {x : Binary64} : .nan ∉ [x] ↔ x ≠ .nan := by
  rw [List.mem_singleton, ← ne_eq, ne_comm]

/-- No text is read as a NaN. -/
theorem ne_nan_of_read? {cs : List Char} {x : Binary64} (h : read? cs = some x) : x ≠ .nan := by
  obtain ⟨⟨negative, d⟩, -, rfl⟩ := Option.map_eq_some_iff.1 h
  exact ofMagnitude_ne_nan _ _

end Binary64

namespace Token

variable {t : Token} {n : Binary64}

/-- A token gives no NaN as its number. -/
theorem ne_nan_of_number? (h : t.number? = some n) : n ≠ .nan := by
  rw [number?] at h
  split at h
  · exact Binary64.ne_nan_of_read? h
  · cases h

/-- A token gives no NaN as its number with a unit. -/
theorem ne_nan_of_dimension? {unit : String} (h : t.dimension? = some (n, unit)) : n ≠ .nan := by
  rw [dimension?] at h
  split at h
  · dsimp only at h
    split at h
    · cases h
    · obtain ⟨x, hread, hpair⟩ := Option.map_eq_some_iff.1 h
      obtain ⟨rfl, -⟩ := Prod.mk.inj hpair
      exact Binary64.ne_nan_of_read? hread
  · cases h

end Token

namespace Property

/-- The numbers in a value. -/
def numbers : (p : Property) → p.Value → List Binary64
  | .length _, l =>
    match (l : Length) with
    | .px x => [x]
    | _ => []
  | .fontSize, size =>
    match (size : FontSize) with
    | .px x => [x]
    | .inherit => []
  | .trackSize _, size =>
    match (size : TrackSize) with
    | .px x => [x]
    | .auto => []
  | .transform _, x => [(x : Binary64)]
  | _, _ => []

/-- The numbers in a plain value are finite. -/
theorem Plain.isFinite {p : Property} {x : p.Value} (h : p.Plain x) {n : Binary64}
    (hn : n ∈ p.numbers x) : n.IsFinite := by
  cases p with
  | length q =>
    cases x with
    | px m => exact List.mem_singleton.1 hn ▸ h
    | _ => cases hn
  | fontSize =>
    cases x with
    | px m => exact List.mem_singleton.1 hn ▸ h
    | inherit => cases hn
  | trackSize a =>
    cases x with
    | px m => exact List.mem_singleton.1 hn ▸ h
    | auto => cases hn
  | transform part => exact List.mem_singleton.1 hn ▸ h
  | _ => cases hn

/-- A value equals itself exactly if it holds no NaN. -/
theorem sameValue_self_iff {p : Property} {x : p.Value} :
    p.sameValue x x = true ↔ .nan ∉ p.numbers x := by
  have hpixels {n : Binary64} : (n == n) = true ↔ Binary64.nan ∉ [n] :=
    Binary64.sameValue_self_iff.trans Binary64.nan_not_mem_singleton.symm
  cases p with
  | length q =>
    cases x with
    | px n => exact hpixels
    | _ => exact iff_of_true rfl List.not_mem_nil
  | fontSize =>
    cases x with
    | px n => exact hpixels
    | inherit => exact iff_of_true rfl List.not_mem_nil
  | trackSize a =>
    cases x with
    | px n => exact hpixels
    | auto => exact iff_of_true rfl List.not_mem_nil
  | transform part => exact hpixels
  | _ => exact iff_of_true (decide_eq_true rfl) List.not_mem_nil

end Property

namespace Style

/-- No number in the style is a NaN. -/
def HasNoNaN (s : Style) : Prop :=
  s.Meets fun p x => .nan ∉ p.numbers x

/-- A style has the same values as itself exactly if it holds no NaN. -/
theorem sameValues_self_iff {s : Style} : s.sameValues s = true ↔ s.HasNoNaN := by
  have hat (p : Property) :
      s.sameAt s p = true ↔ ∀ x, s.get p = some x → .nan ∉ p.numbers x := by
    rw [sameAt]
    cases s.get p with
    | none => exact iff_of_true rfl nofun
    | some x => simp [Property.sameValue_self_iff]
  simp only [sameValues, List.all_eq_true, hat]
  exact ⟨fun h p => h p p.mem_all, fun h p _ => h p⟩

end Style

namespace Value

variable {t : Token} {n : Binary64}

/-- A length that is read is no NaN. -/
theorem ne_nan_of_lengthOf {value : String} (h : lengthOf value t = .ok (.px n)) : n ≠ .nan := by
  unfold lengthOf at h
  split at h
  · split at h
    · next hdimension =>
      obtain rfl := Length.px.inj (Except.ok.inj h)
      exact Token.ne_nan_of_dimension? hdimension
    all_goals first | cases h | (split at h <;> cases h)
  · split at h
    · obtain rfl := Length.px.inj (Except.ok.inj h)
      exact Binary64.isFinite_zero.2
    · cases h
  · split at h <;> cases h
  · cases h

/-- A number of pixels that is read is none. -/
theorem ne_nan_of_length {value : String} (h : length value = .ok (.px n)) : n ≠ .nan := by
  obtain ⟨ts, -, h⟩ := exists_of_bind_eq_ok h
  split at h
  · exact ne_nan_of_lengthOf h
  · cases h

/-- A font size that is read is no NaN. -/
theorem ne_nan_of_fontSize {value : String} (h : fontSize value = .ok (.px n)) : n ≠ .nan := by
  unfold fontSize at h
  split at h
  · cases h
  · obtain ⟨l, hlength, h⟩ := exists_of_bind_eq_ok h
    split at h
    · obtain rfl := FontSize.px.inj (Except.ok.inj h)
      exact ne_nan_of_length hlength
    · cases h

/-- The size of a track that is read is no NaN. -/
theorem ne_nan_of_trackSize (h : trackSize t = .ok (.px n)) : n ≠ .nan := by
  unfold trackSize at h
  split at h
  · split at h <;> cases h
  · next hdimension =>
    obtain rfl := TrackSize.px.inj (Except.ok.inj h)
    exact Token.ne_nan_of_dimension? hdimension
  · split at h <;> cases h

/-- The size of the tracks of a template that is read is no NaN. -/
theorem ne_nan_of_gridTemplate {value : String} {tracks : GridTracks}
    (h : gridTemplate value = .ok tracks) (hsize : tracks.size = .px n) : n ≠ .nan := by
  obtain ⟨ts, -, h⟩ := exists_of_bind_eq_ok h
  split at h
  · cases h
  · next first rest =>
    dsimp only at h
    by_cases hname : first.functionName? ≠ some "repeat"
    · rw [if_pos hname] at h
      cases h
    · rw [if_neg hname] at h
      split at h
      · cases h
      · cases h
      · split at h
        · obtain ⟨size, hread, h⟩ := exists_of_bind_eq_ok h
          obtain rfl := Except.ok.inj h
          obtain rfl : size = .px n := hsize
          exact ne_nan_of_trackSize hread
        · cases h
      · cases h

/-- An argument in pixels that is read is no NaN. -/
theorem ne_nan_of_pixelArgument (h : pixelArgument t = .ok n) : n ≠ .nan := by
  unfold pixelArgument at h
  split at h
  · next hdimension =>
    obtain rfl := Except.ok.inj h
    exact Token.ne_nan_of_dimension? hdimension
  · split at h
    · obtain rfl := Except.ok.inj h
      exact Binary64.isFinite_zero.2
    · cases h
  · cases h

/-- An argument in degrees that is read is no NaN. -/
theorem ne_nan_of_degreeArgument (h : degreeArgument t = .ok n) : n ≠ .nan := by
  unfold degreeArgument at h
  split at h
  · next hdimension =>
    obtain rfl := Except.ok.inj h
    exact Token.ne_nan_of_dimension? hdimension
  · split at h
    · obtain rfl := Except.ok.inj h
      exact Binary64.isFinite_zero.2
    · cases h
  · cases h

/-- An argument without a unit that is read is no NaN. -/
theorem ne_nan_of_numberArgument (h : numberArgument t = .ok n) : n ≠ .nan := by
  unfold numberArgument at h
  split at h
  · next hnumber =>
    obtain rfl := Except.ok.inj h
    exact Token.ne_nan_of_number? hnumber
  · cases h

/-- No part is a NaN after a function that is read if none was before. -/
theorem ne_nan_of_transformStep {parts after : Transform} {name : String} {arguments : List Token}
    (hparts : ∀ p, parts.get p ≠ .nan) (h : transformStep parts name arguments = .ok after) :
    ∀ p, after.get p ≠ .nan := by
  rw [Transform.forall_get_iff (· ≠ .nan)] at hparts ⊢
  obtain ⟨hleft, htop, hrotate, hscaleX, hscaleY⟩ := hparts
  unfold transformStep at h
  split at h
  · obtain ⟨x, hx, h⟩ := exists_of_bind_eq_ok h
    obtain ⟨y, hy, h⟩ := exists_of_bind_eq_ok h
    obtain rfl := Except.ok.inj h
    exact ⟨ne_nan_of_pixelArgument hx, ne_nan_of_pixelArgument hy, hrotate, hscaleX, hscaleY⟩
  · obtain ⟨x, hx, h⟩ := exists_of_bind_eq_ok h
    obtain rfl := Except.ok.inj h
    exact ⟨ne_nan_of_pixelArgument hx, htop, hrotate, hscaleX, hscaleY⟩
  · obtain ⟨angle, hangle, h⟩ := exists_of_bind_eq_ok h
    obtain rfl := Except.ok.inj h
    exact ⟨hleft, htop, ne_nan_of_degreeArgument hangle, hscaleX, hscaleY⟩
  · obtain ⟨x, hx, h⟩ := exists_of_bind_eq_ok h
    obtain ⟨y, hy, h⟩ := exists_of_bind_eq_ok h
    obtain rfl := Except.ok.inj h
    exact ⟨hleft, htop, hrotate, ne_nan_of_numberArgument hx, ne_nan_of_numberArgument hy⟩
  · obtain ⟨factor, hfactor, h⟩ := exists_of_bind_eq_ok h
    obtain rfl := Except.ok.inj h
    have hnumber := ne_nan_of_numberArgument hfactor
    exact ⟨hleft, htop, hrotate, hnumber, hnumber⟩
  · cases h

/-- The parts of a transformation that are not set are numbers. -/
theorem get_identity_ne_nan (p : TransformPart) : Transform.identity.get p ≠ .nan := by
  cases p with
  | left | top | rotate => exact Binary64.isFinite_zero.2
  | scaleX | scaleY => exact Binary64.isFinite_one.2

/-- Functions that are read one after the other keep all parts numbers. -/
theorem ne_nan_of_transformSteps {parts after : Transform} {ts : List Token}
    (hparts : ∀ p, parts.get p ≠ .nan) (h : transformSteps parts ts = .ok after) :
    ∀ p, after.get p ≠ .nan := by
  fun_induction transformSteps parts ts with
  | case1 parts =>
    obtain rfl := Except.ok.inj h
    exact hparts
  | case2 => cases h
  | case3 => cases h
  | case4 parts t rest name _ arguments next _ stepped hstep ih =>
    exact ih (ne_nan_of_transformStep hparts hstep) h
  | case5 => cases h

/-- No part of a transform that is read is a NaN. -/
theorem ne_nan_of_transform {value : String} {after : Transform}
    (h : transform value = .ok after) : ∀ p, after.get p ≠ .nan := by
  obtain ⟨ts, -, h⟩ := exists_of_bind_eq_ok h
  split at h
  · obtain rfl := Except.ok.inj h
    exact get_identity_ne_nan
  · exact ne_nan_of_transformSteps get_identity_ne_nan h

end Value

namespace CssProperty

/-- The values that are read for a property hold no NaN. -/
theorem hasNoNaN_of_read {d : CssProperty} {value : String} {s : Style}
    (h : d.read value = .ok s) : s.HasNoNaN := by
  refine meets_read h (fun c hsingle x hread => ?_) (fun a tracks _ hread => ?_)
    (fun t _ hread part => Binary64.nan_not_mem_singleton.2 (Value.ne_nan_of_transform hread part))
  · cases d with
    | length q =>
      obtain rfl := Option.some_inj.1 hsingle
      cases x with
      | px n => exact Binary64.nan_not_mem_singleton.2 (Value.ne_nan_of_length hread)
      | _ => exact List.not_mem_nil
    | fontSize =>
      obtain rfl := Option.some_inj.1 hsingle
      cases x with
      | px n => exact Binary64.nan_not_mem_singleton.2 (Value.ne_nan_of_fontSize hread)
      | inherit => exact List.not_mem_nil
    | gridTemplate | transform => cases hsingle
    | _ =>
      obtain rfl := Option.some_inj.1 hsingle
      exact List.not_mem_nil
  · refine ⟨List.not_mem_nil, ?_⟩
    cases hsize : tracks.size with
    | auto => exact List.not_mem_nil
    | px n => exact Binary64.nan_not_mem_singleton.2 (Value.ne_nan_of_gridTemplate hread hsize)

/-- What a declaration contributes holds no NaN, whatever its text is. -/
theorem hasNoNaN_contribution (d : CssProperty) (value : String) :
    (d.contribution value).HasNoNaN := by
  unfold contribution
  split
  · next h => exact hasNoNaN_of_read h
  · exact fun p x hx hn => ((d.plain_fallback p x hx).isFinite hn).2 rfl

end CssProperty

namespace Style

/-- Settled values are finite, so none is a NaN. -/
theorem IsSettled.hasNoNaN {s : Style} (h : s.IsSettled) : s.HasNoNaN :=
  fun p x hx hn => ((h.plain p x hx).isFinite hn).2 rfl

/-- Whatever the texts of some declarations are, they contribute no NaN. -/
theorem hasNoNaN_absorbed (declarations : Declarations) : (absorbed declarations).HasNoNaN := by
  intro p x hx
  rw [get_absorbed, Option.bind_eq_some_iff] at hx
  obtain ⟨value, -, hx⟩ := hx
  exact (CssProperty.owner p).hasNoNaN_contribution value p x hx

/-- Nor does a style that is read from them over any inherited position hold one. -/
theorem hasNoNaN_ofDeclarationsOver (declarations : Declarations) (inherited : Option Position) :
    (ofDeclarationsOver declarations inherited).HasNoNaN := by
  rw [ofDeclarationsOver_eq, withoutImpliedPosition_eq]
  split
  · exact (hasNoNaN_absorbed declarations).withPosition (fun _ => List.not_mem_nil) _
  · exact hasNoNaN_absorbed declarations

end Style

end Sitework
