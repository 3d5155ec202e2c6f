import Sitework.Proofs.OrderedMap
import Sitework.Proofs.Outcome
import Sitework.Style.Reading

/-!
# Declarations as a view of a style

Under the name of a rendered property stands what the style renders for it, once an implied
position is taken as set. Read back, a style property has the value that the declaration of its
owner contributes. Both directions depend on the values that belong to one owner only.
-/

namespace Sitework

namespace CssProperty

/-- Properties of CSS with the same name are the same. -/
theorem name_injective {d d' : CssProperty} (h : d.name = d'.name) : d = d' := by
  have hname := ofName?_name d
  rw [h, ofName?_name] at hname
  exact (Option.some.inj hname).symm

/-- Whether a style property is rendered without any other one. -/
def rendersAlone : Property → Bool
  | .trackCount _ | .trackSize _ | .transform _ => false
  | _ => true

/-- A property that is rendered alone shares its owner with no other. -/
theorem eq_of_rendersAlone {q : Property} (hq : rendersAlone q = true) {p : Property}
    (h : owner p = owner q) : p = q := by
  cases q <;> cases p <;> cases h <;> first | rfl | cases hq

/-- How a property that stands for one value is rendered and read. -/
structure Single (d : CssProperty) where
  /-- The style property. -/
  property : Property
  /-- The rendered form of a value. -/
  css : property.Value → String
  /-- The reader of values. -/
  reading : String → Value.Reading property.Value
  owner_eq : owner property = d := by rfl
  alone : rendersAlone property = true := by rfl
  render?_eq : ∀ s : Style, d.render? s = (s.get property).map css := by exact fun _ => rfl
  read_eq : ∀ value, d.read value = (reading value).map (Style.empty.set property) := by
    exact fun _ => rfl

/-- All properties but grid templates and the transform stand for one value. -/
def single? : (d : CssProperty) → Option (Single d)
  | .length p => some { property := .length p, css := Length.css p.axis, reading := Value.length }
  | .borderStyle => some
    { property := .borderStyle, css := Keyword.css
      reading := Value.keyword "unknown border style" }
  | .color p => some
    { property := .color p, css := id, reading := Value.color
      render?_eq := fun _ => Option.map_id'.symm }
  | .fontFamily => some
    { property := .fontFamily, css := fontFamilyCss, reading := Value.fontFamily }
  | .fontSize => some { property := .fontSize, css := FontSize.css, reading := Value.fontSize }
  | .fontWeight => some
    { property := .fontWeight, css := Keyword.css, reading := Value.fontWeight }
  | .textAlign => some
    { property := .textAlign, css := Keyword.css, reading := Value.keyword "unknown alignment" }
  | .display => some
    { property := .display, css := Keyword.css, reading := Value.keyword "unknown display" }
  | .flexDirection => some
    { property := .flexDirection, css := Keyword.css
      reading := Value.keyword "unknown direction" }
  | .alignItems => some
    { property := .alignItems, css := Keyword.css, reading := Value.keyword "unknown alignment" }
  | .justifyContent => some
    { property := .justifyContent, css := Keyword.css
      reading := Value.keyword "unknown distribution" }
  | .position => some
    { property := .position, css := Keyword.css, reading := Value.keyword "unsupported position" }
  | .zIndex => some
    { property := .zIndex, css := fun z => toString z.toInt, reading := Value.zIndex }
  | .gridTemplate _ | .transform => none

namespace Single

variable {d : CssProperty} (c : Single d)

/-- No other value belongs to the property. -/
theorem eq_property {p : Property} (h : owner p = d) : p = c.property :=
  eq_of_rendersAlone c.alone (h.trans c.owner_eq.symm)

/-- What is read sets the value and nothing else. -/
theorem exists_of_read {value : String} {s : Style} (h : d.read value = .ok s) :
    ∃ x, c.reading value = .ok x ∧ Style.empty.set c.property x = s := by
  rw [c.read_eq] at h
  exact exists_of_map_eq_ok h

end Single

/-- What is rendered for a property depends on the values that belong to it. -/
theorem render?_congr {s t : Style} {d : CssProperty}
    (h : ∀ p, owner p = d → s.get p = t.get p) : d.render? s = d.render? t := by
  cases hsingle : d.single? with
  | some c => rw [c.render?_eq, c.render?_eq, h _ c.owner_eq]
  | none =>
    cases d with
    | gridTemplate a =>
      simp only [render?, GridTracks.ofStyle?, h (.trackCount a) rfl, h (.trackSize a) rfl]
    | transform =>
      have hleft : s.left = t.left := h (.transform .left) rfl
      have htop : s.top = t.top := h (.transform .top) rfl
      have hrotate : s.rotate = t.rotate := h (.transform .rotate) rfl
      have hscaleX : s.scaleX = t.scaleX := h (.transform .scaleX) rfl
      have hscaleY : s.scaleY = t.scaleY := h (.transform .scaleY) rfl
      simp only [render?, Transform.ofStyle?, hleft, htop, hrotate, hscaleX, hscaleY]
    | _ => cases hsingle

end CssProperty

namespace GridTracks

/-- The values of grid tracks belong to one grid template. -/
theorem get_toStyle_of_owner_ne (tracks : GridTracks) {a : GridAxis} {p : Property}
    (h : CssProperty.owner p ≠ .gridTemplate a) : (tracks.toStyle a).get p = none := by
  cases a <;> cases p with
  | trackCount b => cases b <;> first | rfl | exact absurd rfl h
  | trackSize b => cases b <;> first | rfl | exact absurd rfl h
  | length q => cases q <;> rfl
  | color q => cases q <;> rfl
  | transform q => cases q <;> rfl
  | _ => rfl

theorem get_toStyle_count (tracks : GridTracks) (a : GridAxis) :
    (tracks.toStyle a).get (.trackCount a) = some tracks.count := by
  cases a <;> rfl

theorem get_toStyle_size (tracks : GridTracks) (a : GridAxis) :
    (tracks.toStyle a).get (.trackSize a) = some tracks.size := by
  cases a <;> rfl

/-- Tracks that are taken from a style have its count and its size. -/
theorem get_of_ofStyle? {s : Style} {a : GridAxis} {tracks : GridTracks}
    (h : ofStyle? s a = some tracks) :
    s.get (.trackCount a) = some tracks.count ∧ s.get (.trackSize a) = some tracks.size := by
  unfold ofStyle? at h
  split at h
  · next hcount hsize =>
    obtain rfl := Option.some.inj h
    exact ⟨hcount, hsize⟩
  · simp at h

end GridTracks

namespace Transform

/-- The values of a transform belong to the rendered transform. -/
theorem get_toStyle_of_owner_ne (t : Transform) {p : Property}
    (h : CssProperty.owner p ≠ .transform) : t.toStyle.get p = none := by
  cases p with
  | transform q => exact absurd rfl h
  | length q => cases q <;> rfl
  | color q => cases q <;> rfl
  | trackCount a => cases a <;> rfl
  | trackSize a => cases a <;> rfl
  | _ => rfl

theorem get_toStyle (t : Transform) (p : TransformPart) :
    t.toStyle.get (.transform p) = some (t.get p) := by
  cases p <;> rfl

/-- A transformation that is taken from a style has the parts that the style sets. -/
theorem get_of_ofStyle? {s : Style} {t : Transform} (h : ofStyle? s = some t)
    (p : TransformPart) : s.get (.transform p) = some (t.get p) := by
  unfold ofStyle? at h
  split at h
  · next hleft htop hrotate hscaleX hscaleY =>
    obtain rfl := Option.some.inj h
    cases p <;> assumption
  · simp at h

end Transform

namespace CssProperty

/-- What is read for a property are values that belong to it. -/
theorem get_read {d : CssProperty} {value : String} {s : Style} (h : d.read value = .ok s)
    {p : Property} (hp : owner p ≠ d) : s.get p = none := by
  cases hsingle : d.single? with
  | some c =>
    obtain ⟨x, -, rfl⟩ := c.exists_of_read h
    have hne : c.property ≠ p := fun heq => hp (heq ▸ c.owner_eq)
    rw [Style.get_set_of_ne _ _ hne, Style.get_empty]
  | none =>
    cases d with
    | gridTemplate a =>
      obtain ⟨tracks, -, rfl⟩ := exists_of_map_eq_ok h
      exact tracks.get_toStyle_of_owner_ne hp
    | transform =>
      obtain ⟨t, -, rfl⟩ := exists_of_map_eq_ok h
      exact t.get_toStyle_of_owner_ne hp
    | _ => cases hsingle

/-- The default for a property consists of values that belong to it. -/
theorem get_fallback {d : CssProperty} {p : Property} (hp : owner p ≠ d) :
    d.fallback.get p = none := by
  cases d with
  | length q =>
    have hne : Property.length q ≠ p := fun e => hp (e ▸ rfl)
    rw [fallback, Style.get_set_of_ne _ _ hne, Style.get_empty]
  | gridTemplate a => exact GridTracks.get_toStyle_of_owner_ne _ hp
  | transform => exact Transform.get_toStyle_of_owner_ne _ hp
  | zIndex =>
    have hne : Property.zIndex ≠ p := fun e => hp (e ▸ rfl)
    exact (Style.get_set_of_ne Style.empty (p := .zIndex) 0 hne).trans (Style.get_empty p)
  | _ => exact Style.get_empty p

/-- A declaration contributes values that belong to its property. -/
theorem get_contribution (d : CssProperty) (value : String) {p : Property} (hp : owner p ≠ d) :
    (d.contribution value).get p = none := by
  unfold contribution
  split
  · next h => exact get_read h hp
  · exact get_fallback hp

end CssProperty

namespace Style

/-- The style with a position in place of the present one. -/
def withPosition (s : Style) (position : Option Position) : Style :=
  { s with position }

@[simp] theorem get_withPosition_of_ne (s : Style) (position : Option Position) {p : Property}
    (h : p ≠ .position) : (s.withPosition position).get p = s.get p := by
  cases p with
  | position => exact absurd rfl h
  | length q => cases q <;> rfl
  | color q => cases q <;> rfl
  | trackCount a => cases a <;> rfl
  | trackSize a => cases a <;> rfl
  | transform q => cases q <;> rfl
  | _ => rfl

@[simp] theorem position_withPosition (s : Style) (position : Option Position) :
    (s.withPosition position).position = position := rfl

@[simp] theorem zIndex_withPosition (s : Style) (position : Option Position) :
    (s.withPosition position).zIndex = s.zIndex := rfl

/-- The style with the position that its stacking order implies. -/
def shown (s : Style) : Style :=
  s.withPosition (if s.impliesPosition then some .relative else s.position)

@[simp] theorem zIndex_shown (s : Style) : s.shown.zIndex = s.zIndex := rfl

/-- Only the position is shown otherwise than it is set. -/
theorem get_shown_of_ne (s : Style) {p : Property} (h : p ≠ .position) :
    s.shown.get p = s.get p :=
  get_withPosition_of_ne s _ h

/-- A depth without a position is shown with a relative one. -/
theorem position_shown (s : Style) :
    s.shown.position =
      match s.zIndex, s.position with
      | some _, none => some .relative
      | _, position => position := by
  rw [shown, position_withPosition, impliesPosition]
  cases s.zIndex <;> cases s.position <;> rfl

/-- A position of its own is not implied. -/
theorem position_shown_of_ne_none {s : Style} (h : s.position ≠ none) :
    s.shown.position = s.position := by
  obtain ⟨position, hposition⟩ := Option.ne_none_iff_exists'.1 h
  rw [position_shown, hposition]
  cases s.zIndex <;> rfl

/-- A position is shown if there is one or a stacking order implies it. -/
theorem isSome_position_shown (s : Style) :
    s.shown.position.isSome = (s.zIndex.isSome || s.position.isSome) := by
  rw [position_shown]
  cases s.zIndex <;> cases s.position <;> rfl

/-- The names of the rendered values occur once each. -/
theorem nodup_rendered (s : Style) : (s.rendered.map Prod.fst).Nodup := by
  have hkeys (ds : List CssProperty) :
      (ds.filterMap fun d => (d.render? s).map (d.name, ·)).map Prod.fst =
        (ds.filter fun d => (d.render? s).isSome).map CssProperty.name := by
    induction ds with
    | nil => rfl
    | cons d ds ih => cases h : d.render? s <;> simp [h, ih]
  have hall : (CssProperty.all.map CssProperty.name).Nodup := by decide +kernel
  have hfirst := hall.sublist
    (List.filter_sublist (p := fun d => (d.render? s).isSome).map CssProperty.name)
  rw [rendered, List.map_append, hkeys]
  split
  · next h =>
    have hposition : s.position = none := by
      simp only [impliesPosition, Bool.and_eq_true, Option.isNone_iff_eq_none] at h
      exact h.2
    refine List.nodup_append.2 ⟨hfirst, by simp, ?_⟩
    rintro name hname name' hname' rfl
    obtain ⟨d, hd, rfl⟩ := List.mem_map.1 hname
    obtain rfl : d = .position := CssProperty.name_injective (by simpa using hname')
    simp [CssProperty.render?, hposition] at hd
  · simpa using hfirst

theorem entries_declarations (s : Style) : s.declarations.entries = s.rendered :=
  OrderedMap.entries_ofList s.nodup_rendered

/-- The implied position is shown for one property only. -/
theorem render?_shown_of_ne (s : Style) {d : CssProperty} (hd : d ≠ .position) :
    d.render? s.shown = d.render? s := by
  refine CssProperty.render?_congr fun p hp => get_withPosition_of_ne _ _ ?_
  rintro rfl
  exact hd hp.symm

/-- Rendered are the properties whose owner has something to show. -/
theorem mem_rendered {s : Style} {entry : String × String} :
    entry ∈ s.rendered ↔
      ∃ d : CssProperty, d.name = entry.1 ∧ d.render? s.shown = some entry.2 := by
  obtain ⟨name, value⟩ := entry
  have hfirst : (name, value) ∈ CssProperty.all.filterMap (fun d => (d.render? s).map (d.name, ·)) ↔
      ∃ d : CssProperty, d.name = name ∧ d.render? s = some value := by
    simp only [List.mem_filterMap, Option.map_eq_some_iff, Prod.mk.injEq]
    constructor
    · rintro ⟨d, -, value, hvalue, hname, rfl⟩
      exact ⟨d, hname, hvalue⟩
    · rintro ⟨d, hname, hvalue⟩
      exact ⟨d, d.mem_all, value, hvalue, hname, rfl⟩
  rw [rendered, List.mem_append, hfirst]
  cases himplies : s.impliesPosition with
  | false =>
    have hshown : s.shown = s := by
      rw [shown, himplies]
      rfl
    simp [hshown]
  | true =>
    have hposition : s.position = none := by
      simp only [impliesPosition, Bool.and_eq_true, Option.isNone_iff_eq_none] at himplies
      exact himplies.2
    have hshown : CssProperty.position.render? s.shown = some (Keyword.css Position.relative) := by
      rw [shown, himplies]
      rfl
    simp only [if_true, List.mem_singleton, Prod.mk.injEq]
    constructor
    · rintro (⟨d, hname, hvalue⟩ | ⟨rfl, rfl⟩)
      · have hd : d ≠ .position := by
          rintro rfl
          simp [CssProperty.render?, hposition] at hvalue
        exact ⟨d, hname, (render?_shown_of_ne s hd).trans hvalue⟩
      · exact ⟨.position, rfl, hshown⟩
    · rintro ⟨d, rfl, hvalue⟩
      by_cases hd : d = .position
      · subst hd
        exact .inr ⟨rfl, Option.some.inj (hvalue.symm.trans hshown)⟩
      · exact .inl ⟨d, rfl, (render?_shown_of_ne s hd).symm.trans hvalue⟩

/-- Under the name of a property stands what is rendered for it. -/
theorem get?_declarations (s : Style) (d : CssProperty) :
    s.declarations.get? d.name = d.render? s.shown := by
  ext value
  rw [OrderedMap.get?_eq_some_iff, entries_declarations, mem_rendered]
  constructor
  · rintro ⟨d', hname, hvalue⟩
    exact CssProperty.name_injective hname ▸ hvalue
  · intro hvalue
    exact ⟨d, rfl, hvalue⟩

/-- Nothing is declared under other names. -/
theorem get?_declarations_of_unknown (s : Style) {name : String}
    (h : CssProperty.ofName? name = none) : s.declarations.get? name = none := by
  rw [OrderedMap.get?_eq_none_iff, OrderedMap.keys, entries_declarations]
  intro hmem
  obtain ⟨entry, hentry, rfl⟩ := List.mem_map.1 hmem
  obtain ⟨d, hname, -⟩ := mem_rendered.1 hentry
  rw [← hname, CssProperty.ofName?_name] at h
  exact Option.some_ne_none d h

/-- What some declarations contribute together. -/
def absorbed (declarations : Declarations) : Style :=
  declarations.entries.foldl (fun s entry => s.absorb entry.1 entry.2) empty

theorem ofDeclarationsOver_eq (declarations : Declarations) (inherited : Option Position) :
    ofDeclarationsOver declarations inherited =
      if inherited.isNone then (absorbed declarations).withoutImpliedPosition
      else absorbed declarations := rfl

/-- A declaration decides the values that belong to its property. -/
theorem get_absorb (s : Style) (name value : String) (p : Property) :
    (s.absorb name value).get p =
      if name = (CssProperty.owner p).name then
        (((CssProperty.owner p).contribution value).get p).or (s.get p)
      else s.get p := by
  rw [absorb]
  cases hd : CssProperty.ofName? name with
  | none =>
    have hne : name ≠ (CssProperty.owner p).name := by
      rintro rfl
      rw [CssProperty.ofName?_name] at hd
      exact Option.some_ne_none _ hd
    rw [if_neg hne]
  | some d =>
    obtain rfl := CssProperty.name_of_ofName? hd
    simp only [get_merge]
    split
    · next h => rw [CssProperty.name_injective h]
    · next h =>
      rw [d.get_contribution value fun e => h (e ▸ rfl), Option.none_or]

/-- Declarations of other properties leave a value as it is. -/
private theorem get_foldl_absorb_of_not_mem {p : Property} {entries : List (String × String)}
    (h : (CssProperty.owner p).name ∉ entries.map Prod.fst) (s : Style) :
    (entries.foldl (fun s entry => s.absorb entry.1 entry.2) s).get p = s.get p := by
  induction entries generalizing s with
  | nil => rfl
  | cons entry rest ih =>
    simp only [List.map_cons, List.mem_cons, not_or] at h
    rw [List.foldl_cons, ih h.2, get_absorb, if_neg (Ne.symm h.1)]

/-- Of declarations under different names, that of the owner decides a value. -/
private theorem get_foldl_absorb_of_mem {p : Property} {entries : List (String × String)}
    (hnodup : (entries.map Prod.fst).Nodup) {value : String}
    (h : ((CssProperty.owner p).name, value) ∈ entries) (s : Style) :
    (entries.foldl (fun s entry => s.absorb entry.1 entry.2) s).get p =
      (((CssProperty.owner p).contribution value).get p).or (s.get p) := by
  induction entries generalizing s with
  | nil => simp at h
  | cons entry rest ih =>
    simp only [List.map_cons, List.nodup_cons] at hnodup
    rw [List.foldl_cons]
    rcases List.mem_cons.1 h with rfl | hrest
    · rw [get_foldl_absorb_of_not_mem hnodup.1, get_absorb, if_pos rfl]
    · have hne : entry.1 ≠ (CssProperty.owner p).name := by
        intro heq
        exact hnodup.1 (heq ▸ List.mem_map.2 ⟨_, hrest, rfl⟩)
      rw [ih hnodup.2 hrest, get_absorb, if_neg hne]

/-- Each value is what the declaration of its owner contributes. -/
theorem get_absorbed (declarations : Declarations) (p : Property) :
    (absorbed declarations).get p =
      (declarations.get? (CssProperty.owner p).name).bind fun value =>
        ((CssProperty.owner p).contribution value).get p := by
  rw [absorbed]
  cases h : declarations.get? (CssProperty.owner p).name with
  | none =>
    rw [get_foldl_absorb_of_not_mem (OrderedMap.get?_eq_none_iff.1 h), get_empty]
    rfl
  | some value =>
    rw [get_foldl_absorb_of_mem declarations.nodup (OrderedMap.get?_eq_some_iff.1 h), get_empty,
      Option.or_none]
    rfl

end Style

end Sitework
