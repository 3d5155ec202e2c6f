import Sitework.Proofs.Style.Meets
import Sitework.Proofs.Style.Values

/-!
# The reader of styles undoes rendering

A value is plain if its rendered form is read back as it is: numbers are finite, colors in normal
form, font families without quotes. A style is settled if its values are plain and properties that
render together are set together. Reading what any style renders gives a settled one, and a settled
one is read back as it is, up to a position that the stacking order implies.
-/

namespace Sitework

namespace Property

/-- Values whose rendered form is read back as it is. -/
def Plain : (p : Property) → p.Value → Prop
  | .length _, l => Length.IsFinite l
  | .color _, text => Color.IsNormal text
  | .fontFamily, family => '"' ∉ family.toList
  | .fontSize, size => FontSize.IsFinite size
  | .trackSize _, size => TrackSize.IsFinite size
  | .transform _, x => Binary64.IsFinite x
  | .borderStyle, _ | .fontWeight, _ | .textAlign, _ | .display, _ | .flexDirection, _
  | .alignItems, _ | .justifyContent, _ | .trackCount _, _ | .zIndex, _ | .position, _ => True

end Property

namespace CssProperty

/-- Something is rendered for a property exactly if all values that belong to it are set. -/
theorem isSome_render?_iff {d : CssProperty} {s : Style} :
    (d.render? s).isSome = true ↔ ∀ p, owner p = d → (s.get p).isSome = true := by
  cases hsingle : d.single? with
  | some c =>
    rw [c.render?_eq, Option.isSome_map]
    constructor
    · intro h p hp
      rwa [c.eq_property hp]
    · intro h
      exact h _ c.owner_eq
  | none =>
    cases d with
    | gridTemplate a =>
      have hrender : ((CssProperty.gridTemplate a).render? s).isSome =
          ((s.get (.trackCount a)).isSome && (s.get (.trackSize a)).isSome) := by
        simp only [render?, GridTracks.ofStyle?, Option.isSome_map]
        cases s.get (.trackCount a) <;> cases s.get (.trackSize a) <;> rfl
      rw [hrender, Bool.and_eq_true]
      constructor
      · rintro ⟨hcount, hsize⟩ p hp
        cases p <;> cases hp
        · exact hcount
        · exact hsize
      · intro h
        exact ⟨h _ rfl, h _ rfl⟩
    | transform =>
      have hrender : (CssProperty.transform.render? s).isSome =
          (s.left.isSome && s.top.isSome && s.rotate.isSome && s.scaleX.isSome &&
            s.scaleY.isSome) := by
        simp only [render?, Transform.ofStyle?, Option.isSome_map]
        cases s.left <;> cases s.top <;> cases s.rotate <;> cases s.scaleX <;> cases s.scaleY <;>
          rfl
      simp only [hrender, Bool.and_eq_true]
      constructor
      · rintro ⟨⟨⟨⟨hl, ht⟩, hr⟩, hx⟩, hy⟩ p hp
        cases p <;> cases hp
        next part => cases part <;> assumption
      · intro h
        exact ⟨⟨⟨⟨h (.transform .left) rfl, h (.transform .top) rfl⟩, h (.transform .rotate) rfl⟩,
          h (.transform .scaleX) rfl⟩, h (.transform .scaleY) rfl⟩
    | _ => cases hsingle

namespace Single

variable {d : CssProperty} {c : Single d}

/-- A plain value is read from its rendered form. -/
theorem reading_css (h : d.single? = some c) {x : c.property.Value} (hx : c.property.Plain x) :
    c.reading (c.css x) = .ok x := by
  cases d with
  | length q =>
    obtain rfl := Option.some.inj h
    exact (Value.length_css_gives q.axis x).eq_ok hx
  | color q =>
    obtain rfl := Option.some.inj h
    dsimp only
    exact Color.color_of_isNormal hx
  | fontFamily =>
    obtain rfl := Option.some.inj h
    exact Value.fontFamily_css hx
  | fontSize =>
    obtain rfl := Option.some.inj h
    dsimp only
    exact (Value.fontSize_css_gives x).eq_ok hx
  | fontWeight =>
    obtain rfl := Option.some.inj h
    dsimp only
    exact Value.fontWeight_css x
  | zIndex =>
    obtain rfl := Option.some.inj h
    dsimp only
    exact Value.zIndex_toString x
  | gridTemplate | transform => cases h
  | borderStyle | textAlign | display | flexDirection | alignItems | justifyContent | position =>
    obtain rfl := Option.some.inj h
    dsimp only
    exact Value.keyword_css _ x

/-- Whatever is read from the rendered form of a value is plain. -/
theorem plain_of_reading_css (h : d.single? = some c) {x y : c.property.Value}
    (hread : c.reading (c.css x) = .ok y) : c.property.Plain y := by
  cases d with
  | length q =>
    obtain rfl := Option.some.inj h
    obtain ⟨hfinite, rfl⟩ := (Value.length_css_gives q.axis x y).1 hread
    exact hfinite
  | color q =>
    obtain rfl := Option.some.inj h
    dsimp only at hread
    exact Color.isNormal_of_color hread
  | fontFamily =>
    obtain rfl := Option.some.inj h
    exact Value.quote_not_mem_of_fontFamily_css hread
  | fontSize =>
    obtain rfl := Option.some.inj h
    dsimp only at hread
    obtain ⟨hfinite, rfl⟩ := (Value.fontSize_css_gives x y).1 hread
    exact hfinite
  | gridTemplate | transform => cases h
  | _ =>
    obtain rfl := Option.some.inj h
    trivial

end Single

/-- What is read for a plain value is that value. -/
theorem read_render? {d : CssProperty} {s : Style} {value : String}
    (hrender : d.render? s = some value)
    (hplain : ∀ p, owner p = d → ∀ x, s.get p = some x → p.Plain x) :
    ∃ t, d.read value = .ok t ∧ ∀ p, owner p = d → t.get p = s.get p := by
  cases hsingle : d.single? with
  | some c =>
    rw [c.render?_eq] at hrender
    obtain ⟨x, hx, rfl⟩ := Option.map_eq_some_iff.1 hrender
    refine ⟨Style.empty.set c.property x, ?_, fun p hp => ?_⟩
    · rw [c.read_eq, Single.reading_css hsingle (hplain _ c.owner_eq x hx)]
      rfl
    · obtain rfl := c.eq_property hp
      rw [Style.get_set_self, hx]
  | none =>
    cases d with
    | gridTemplate a =>
      obtain ⟨tracks, htracks, rfl⟩ := Option.map_eq_some_iff.1 hrender
      obtain ⟨hcount, hsize⟩ := GridTracks.get_of_ofStyle? htracks
      refine ⟨tracks.toStyle a, ?_, fun p hp => ?_⟩
      · rw [read, (Value.gridTemplate_css_gives tracks).eq_ok (hplain (.trackSize a) rfl _ hsize)]
        rfl
      · cases p <;> cases hp
        · rw [GridTracks.get_toStyle_count, hcount]
        · rw [GridTracks.get_toStyle_size, hsize]
    | transform =>
      obtain ⟨t, ht, rfl⟩ := Option.map_eq_some_iff.1 hrender
      have hpart := Transform.get_of_ofStyle? ht
      refine ⟨t.toStyle, ?_, fun p hp => ?_⟩
      · have hfinite (part : TransformPart) := hplain (.transform part) rfl _ (hpart part)
        rw [read, (Value.transform_css_gives t).eq_ok hfinite]
        rfl
      · cases p <;> cases hp
        rw [Transform.get_toStyle, hpart]
    | _ => cases hsingle

/-- What is read for a rendered value is plain. -/
theorem plain_read {d : CssProperty} {s t : Style} {value : String}
    (hrender : d.render? s = some value) (hread : d.read value = .ok t) :
    t.Meets Property.Plain := by
  refine meets_read hread (fun c hsingle x hx => ?_) (fun a tracks hd htracks => ?_)
    (fun u hd hu part => ?_)
  · rw [c.render?_eq] at hrender
    obtain ⟨y, -, rfl⟩ := Option.map_eq_some_iff.1 hrender
    exact Single.plain_of_reading_css hsingle hx
  · subst hd
    obtain ⟨rendered, -, rfl⟩ := Option.map_eq_some_iff.1 hrender
    obtain ⟨hfinite, rfl⟩ := (Value.gridTemplate_css_gives rendered tracks).1 htracks
    exact ⟨trivial, hfinite⟩
  · subst hd
    obtain ⟨rendered, -, rfl⟩ := Option.map_eq_some_iff.1 hrender
    obtain ⟨hfinite, rfl⟩ := (Value.transform_css_gives rendered u).1 hu
    exact hfinite part

/-- The default for a property is plain. -/
theorem plain_fallback (d : CssProperty) : d.fallback.Meets Property.Plain := by
  cases d with
  | length q =>
    refine Style.Meets.set .empty ?_
    cases q with
    | width | height => trivial
    | _ => exact Binary64.isFinite_zero
  | gridTemplate a => exact Style.meets_tracks ⟨1, .auto⟩ trivial trivial
  | transform =>
    refine Style.meets_transform fun part => ?_
    cases part with
    | scaleX | scaleY => exact Binary64.isFinite_one
    | _ => exact Binary64.isFinite_zero
  | zIndex => exact Style.Meets.set (q := .zIndex) .empty trivial
  | _ => exact .empty

/-- What a rendered value contributes is plain. -/
theorem plain_contribution {d : CssProperty} {s : Style} {value : String}
    (hrender : d.render? s = some value) : (d.contribution value).Meets Property.Plain := by
  unfold contribution
  split
  · next h => exact plain_read hrender h
  · exact d.plain_fallback

/-- A template of a grid contributes tracks along its axis. -/
theorem exists_contribution_gridTemplate (a : GridAxis) (value : String) :
    ∃ tracks : GridTracks, (gridTemplate a).contribution value = tracks.toStyle a := by
  rw [contribution, read]
  cases Value.gridTemplate value with
  | error fault => exact ⟨⟨1, .auto⟩, rfl⟩
  | ok tracks => exact ⟨tracks, rfl⟩

/-- A transformation contributes all its parts. -/
theorem exists_contribution_transform (value : String) :
    ∃ t : Transform, transform.contribution value = t.toStyle := by
  rw [contribution, read]
  cases Value.transform value with
  | error fault => exact ⟨.identity, rfl⟩
  | ok t => exact ⟨t, rfl⟩

/-- A declaration contributes to all values that belong to its property or to none. -/
theorem isSome_get_contribution (d : CssProperty) (value : String) {p q : Property}
    (hp : owner p = d) (hq : owner q = d) :
    ((d.contribution value).get p).isSome = ((d.contribution value).get q).isSome := by
  cases d with
  | gridTemplate a =>
    obtain ⟨tracks, htracks⟩ := exists_contribution_gridTemplate a value
    have hset {r : Property} (hr : owner r = .gridTemplate a) :
        ((tracks.toStyle a).get r).isSome = true := by
      cases r <;> cases hr
      · rw [GridTracks.get_toStyle_count, Option.isSome_some]
      · rw [GridTracks.get_toStyle_size, Option.isSome_some]
    rw [htracks, hset hp, hset hq]
  | transform =>
    obtain ⟨t, ht⟩ := exists_contribution_transform value
    have hset {r : Property} (hr : owner r = .transform) : (t.toStyle.get r).isSome = true := by
      cases r <;> cases hr
      rw [Transform.get_toStyle, Option.isSome_some]
    rw [ht, hset hp, hset hq]
  | _ =>
    have halone : rendersAlone q = true := by cases q <;> first | rfl | cases hq
    rw [eq_of_rendersAlone halone (hp.trans hq.symm)]

end CssProperty

namespace Style

/-- Each value as it is read from its rendered form. -/
def settle (s : Style) : Style :=
  ofFunction fun p =>
    ((CssProperty.owner p).render? s).bind fun value =>
      ((CssProperty.owner p).contribution value).get p

/-- A property is settled by what its owner renders and reads back. -/
theorem get_settle (s : Style) (p : Property) :
    s.settle.get p = ((CssProperty.owner p).render? s).bind fun value =>
      ((CssProperty.owner p).contribution value).get p :=
  get_ofFunction _ p

/-- Reading what a style renders settles each value. -/
theorem absorbed_declarations (s : Style) : absorbed s.declarations = s.shown.settle := by
  refine ext_get fun p => ?_
  rw [get_absorbed, get?_declarations, get_settle]

/-- A style with plain values in which properties that render together are set together. -/
structure IsSettled (s : Style) : Prop where
  plain : ∀ p x, s.get p = some x → p.Plain x
  whole : ∀ p q, CssProperty.owner p = CssProperty.owner q → (s.get p).isSome = (s.get q).isSome

/-- What is read from a rendered style is settled. -/
theorem isSettled_settle (s : Style) : s.settle.IsSettled where
  plain p x hx := by
    rw [get_settle] at hx
    obtain ⟨value, hvalue, hx⟩ := Option.bind_eq_some_iff.1 hx
    exact CssProperty.plain_contribution hvalue p x hx
  whole p q h := by
    rw [get_settle, get_settle, h]
    cases (CssProperty.owner q).render? s with
    | none => rfl
    | some value => exact CssProperty.isSome_get_contribution _ value h rfl

/-- A settled style is read back. -/
theorem IsSettled.settle_eq {s : Style} (h : s.IsSettled) : s.settle = s := by
  refine ext_get fun p => ?_
  rw [get_settle]
  cases hrender : (CssProperty.owner p).render? s with
  | none =>
    cases hp : s.get p with
    | none => rfl
    | some x =>
      have hset : ((CssProperty.owner p).render? s).isSome = true := by
        rw [CssProperty.isSome_render?_iff]
        intro q hq
        rw [h.whole q p hq, hp, Option.isSome_some]
      simp [hrender] at hset
  | some value =>
    obtain ⟨t, hread, ht⟩ := CssProperty.read_render? hrender fun q _ => h.plain q
    rw [Option.bind_some, CssProperty.contribution, hread]
    exact ht p rfl

/-- The position does not matter for a style to be settled. -/
theorem IsSettled.withPosition {s : Style} (h : s.IsSettled) (position : Option Position) :
    (s.withPosition position).IsSettled where
  plain p x hx := by
    by_cases hp : p = .position
    · subst hp
      trivial
    · rw [get_withPosition_of_ne _ _ hp] at hx
      exact h.plain p x hx
  whole p q howner := by
    by_cases hp : p = .position
    · subst hp
      rw [CssProperty.eq_of_rendersAlone rfl howner.symm]
    · have hq : q ≠ .position := by
        rintro rfl
        exact hp (CssProperty.eq_of_rendersAlone rfl howner)
      rw [get_withPosition_of_ne _ _ hp, get_withPosition_of_ne _ _ hq, h.whole p q howner]

/-- What is shown of a settled style is settled. -/
theorem IsSettled.shown {s : Style} (h : s.IsSettled) : s.shown.IsSettled :=
  h.withPosition _

/-- A relative position beside a depth is implied, and dropped. -/
theorem withoutImpliedPosition_eq (s : Style) :
    s.withoutImpliedPosition =
      s.withPosition
        (if s.zIndex.isSome && s.position == some .relative then none else s.position) := by
  unfold withoutImpliedPosition
  split <;> rfl

/-- Any other position stays. -/
theorem position_withoutImpliedPosition (s : Style) :
    s.withoutImpliedPosition.position =
      match s.zIndex, s.position with
      | some _, some .relative => none
      | _, position => position := by
  rw [withoutImpliedPosition_eq, position_withPosition]
  cases s.zIndex with
  | none => cases s.position <;> rfl
  | some z =>
    cases s.position with
    | none => rfl
    | some position => cases position <;> rfl

/-- Outside of the position all is read that the declarations contribute. -/
theorem get_ofDeclarationsOver_of_ne (declarations : Declarations) (inherited : Option Position)
    {p : Property} (hp : p ≠ .position) :
    (ofDeclarationsOver declarations inherited).get p = (absorbed declarations).get p := by
  rw [ofDeclarationsOver_eq]
  split
  · rw [withoutImpliedPosition_eq, get_withPosition_of_ne _ _ hp]
  · rfl

/-- A settled style without a relative position beside a stacking order. -/
structure IsCanonical (s : Style) : Prop extends s.IsSettled where
  explicit : ¬ (s.zIndex.isSome = true ∧ s.position = some .relative)

/-- Without the implied position a settled style is canonical. -/
theorem IsSettled.isCanonical_withoutImpliedPosition {s : Style} (h : s.IsSettled) :
    s.withoutImpliedPosition.IsCanonical where
  toIsSettled := by
    rw [withoutImpliedPosition_eq]
    exact h.withPosition _
  explicit := by
    rintro ⟨hz, hposition⟩
    have hkept : s.withoutImpliedPosition.zIndex = s.zIndex := by
      rw [withoutImpliedPosition_eq, zIndex_withPosition]
    rw [hkept, Option.isSome_iff_exists] at hz
    obtain ⟨z, hz⟩ := hz
    rw [position_withoutImpliedPosition, hz] at hposition
    cases hs : s.position with
    | none => simp [hs] at hposition
    | some position => cases position <;> simp [hs] at hposition

/-- Showing the implied position and leaving it out again changes nothing. -/
theorem IsCanonical.withoutImpliedPosition_shown {s : Style} (h : s.IsCanonical) :
    s.shown.withoutImpliedPosition = s := by
  have hexplicit := h.explicit
  rw [withoutImpliedPosition_eq, Style.shown, zIndex_withPosition, position_withPosition]
  cases himplies : s.impliesPosition with
  | true =>
    simp only [impliesPosition, Bool.and_eq_true, Option.isNone_iff_eq_none] at himplies
    obtain ⟨hz, hposition⟩ := himplies
    rw [if_pos rfl, hz, if_pos (by rfl), ← hposition]
    rfl
  | false =>
    have hkept : (s.zIndex.isSome && s.position == some .relative) = false := by
      by_contra hne
      exact hexplicit (by simpa using hne)
    rw [if_neg Bool.false_ne_true, hkept, if_neg Bool.false_ne_true]
    rfl

/-- The declarations of a canonical style read as that style. -/
theorem ofDeclarations_declarations {s : Style} (h : s.IsCanonical) :
    ofDeclarations s.declarations = s := by
  have hread : absorbed s.declarations = s.shown := by
    rw [absorbed_declarations, h.toIsSettled.shown.settle_eq]
  rw [ofDeclarations, ofDeclarationsOver_eq, hread]
  exact h.withoutImpliedPosition_shown

/-- A box that is moved, scaled and stacked, with a family in quotes and columns of equal width. -/
def card (size factor : Binary64) : Style where
  width := some (.px size)
  color := some "#a1b2c3"
  backgroundColor := some "#00000080"
  fontFamily := some "Open Sans"
  columns := some 2
  columnWidth := some .auto
  left := some size
  top := some size
  rotate := some size
  scaleX := some factor
  scaleY := some factor
  zIndex := some (-3)
  position := some .absolute

/-- The card is canonical if its two numbers are finite. -/
theorem isCanonical_card {size factor : Binary64} (hsize : size.IsFinite)
    (hfactor : factor.IsFinite) : (card size factor).IsCanonical where
  plain p x hx := by
    have hdigits {ds : List Char} (h : ds.all Hex.lowerDigits.contains = true) :
        ∀ d ∈ ds, d ∈ Hex.lowerDigits :=
      fun d hd => List.contains_iff_mem.1 (List.all_eq_true.1 h d hd)
    match p, x, hx with
    | .length .width, _, rfl => exact hsize
    | .color .text, _, rfl => exact ⟨"a1b2c3".toList, rfl, hdigits (by decide), .inl rfl⟩
    | .color .background, _, rfl =>
      exact ⟨"00000080".toList, rfl, hdigits (by decide), .inr ⟨rfl, by decide⟩⟩
    | .fontFamily, _, rfl => exact (by decide : '"' ∉ "Open Sans".toList)
    | .transform .left, _, rfl | .transform .top, _, rfl | .transform .rotate, _, rfl => exact hsize
    | .transform .scaleX, _, rfl | .transform .scaleY, _, rfl => exact hfactor
    | .trackSize .columns, _, rfl => trivial
    | .trackCount .columns, _, rfl | .zIndex, _, rfl | .position, _, rfl => trivial
  whole p q howner := by
    cases p <;> cases q <;> cases howner <;> first
      | rfl
      | (next a => cases a <;> rfl)
      | (next a b => cases a <;> cases b <;> rfl)
  explicit := by simp [card]

theorem ofDeclarations_card :
    ofDeclarations (card (.ofInt (320 : Nat)) (.ofInt (2 : Nat))).declarations =
      card (.ofInt (320 : Nat)) (.ofInt (2 : Nat)) :=
  ofDeclarations_declarations
    (isCanonical_card (Binary64.isFinite_ofInt (by decide)) (Binary64.isFinite_ofInt (by decide)))

end Style

end Sitework
