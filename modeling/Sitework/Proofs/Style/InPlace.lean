import Sitework.Proofs.Style.Cascade
import Sitework.Proofs.Style.Codec
import Sitework.Style.InPlace

/-!
# Reading is isolated

Applied in place, a declaration either fails and leaves the style as it was, whatever that is, or
it sets the values that belong to its property and touches no other one. So each value depends on
the declaration of its owner alone, and the order of the declarations makes no difference. Only the
position depends on one more: next to a stacking order a relative one may count as implied.
-/

namespace Sitework

namespace Style

/-- Setting a value is merging a style that has no other one. -/
theorem merge_set_empty (s : Style) (p : Property) (x : p.Value) :
    s.merge (empty.set p x) = s.set p x := by
  refine ext_get fun q => ?_
  rw [get_merge]
  by_cases hp : p = q
  · subst hp
    rw [get_set_self, get_set_self, Option.some_or]
  · rw [get_set_of_ne _ _ hp, get_set_of_ne _ _ hp, get_empty, Option.none_or]

/-- Styles in three layers may be merged from either end. -/
theorem merge_assoc (s t u : Style) : (s.merge t).merge u = s.merge (t.merge u) := by
  refine ext_get fun p => ?_
  rw [get_merge, get_merge, get_merge, get_merge, Option.or_assoc]

end Style

namespace CssProperty

/-- What is read for a property sets all values that belong to it. -/
theorem isSome_get_read {d : CssProperty} {value : String} {values : Style}
    (h : d.read value = .ok values) {p : Property} (hp : owner p = d) :
    (values.get p).isSome = true := by
  cases hsingle : d.single? with
  | some c =>
    obtain ⟨x, -, rfl⟩ := c.exists_of_read h
    obtain rfl := c.eq_property hp
    rw [Style.get_set_self, Option.isSome_some]
  | none =>
    cases d with
    | gridTemplate a =>
      obtain ⟨tracks, -, rfl⟩ := exists_of_map_eq_ok h
      cases p <;> cases hp
      · rw [tracks.get_toStyle_count, Option.isSome_some]
      · rw [tracks.get_toStyle_size, Option.isSome_some]
    | transform =>
      obtain ⟨t, -, rfl⟩ := exists_of_map_eq_ok h
      cases p <;> cases hp
      rw [t.get_toStyle, Option.isSome_some]
    | _ => cases hsingle

end CssProperty

namespace InPlace

open CssProperty (owner)

variable {ε α : Type}

/-- The change puts some values over those of the style. -/
def Merges (edit : StyleChange) (values : Style) : Prop :=
  ∀ s : Style, edit.run s = ((), s.merge values)

/-- The attempt fails and leaves the style as it was, or it puts some values over those of the
style. Which of the two, and which values, does not depend on the style. -/
def Follows (attempt : StyleAttempt ε Unit) (reading : Except ε Style) : Prop :=
  ∀ s : Style, attempt.run.run s =
    match reading with
    | .ok values => (.ok (), s.merge values)
    | .error fault => (.error fault, s)

/-- Assigning a value merges the style that sets it. -/
theorem merges_assign (p : Property) (x : p.Value) :
    Merges (assign p x) (Style.empty.set p x) := by
  intro s
  rw [Style.merge_set_empty]
  rfl

/-- One change after another merges both styles. -/
theorem Merges.andThen {first next : StyleChange} {lower upper : Style}
    (hfirst : Merges first lower) (hnext : Merges next upper) :
    Merges (first >>= fun _ => next) (lower.merge upper) := by
  intro s
  rw [StateT.run_bind, hfirst s]
  change next.run (s.merge lower) = _
  rw [hnext, Style.merge_assoc]

/-- Assigning tracks merges the style that they make. -/
theorem merges_assignTracks (tracks : GridTracks) (a : GridAxis) :
    Merges (assignTracks tracks a) (tracks.toStyle a) := by
  have hboth := (merges_assign (.trackCount a) tracks.count).andThen
    (merges_assign (.trackSize a) tracks.size)
  cases a <;> exact hboth

/-- So does assigning a transformation. -/
theorem merges_assignTransform (t : Transform) : Merges (assignTransform t) t.toStyle := by
  intro s
  have hrun : (assignTransform t).run s =
      ((), TransformPart.all.foldl (fun s part => s.set (.transform part) (t.get part)) s) := rfl
  rw [hrun]
  refine congrArg (Prod.mk ()) (Style.ext_get fun p => ?_)
  rw [Style.get_merge]
  by_cases hp : owner p = .transform
  · cases p with
    | transform part =>
      rw [t.get_toStyle, Option.some_or]
      cases part <;> simp [TransformPart.all, Style.set]
    | _ => cases hp
  · have hne (part : TransformPart) : Property.transform part ≠ p := by
      rintro rfl
      exact hp rfl
    rw [t.get_toStyle_of_owner_ne hp, Option.none_or]
    simp only [TransformPart.all, List.foldl_cons, List.foldl_nil, Style.get_set_of_ne _ _ (hne _)]

/-- A change by what is read follows the reading. -/
theorem follows_assignRead {reading : Value.Reading α} {edit : α → StyleChange} {values : α → Style}
    (h : ∀ x, Merges (edit x) (values x)) :
    Follows (CssProperty.assignRead reading edit) (reading.map values) := by
  intro s
  cases reading with
  | error fault => rfl
  | ok x =>
    have hlift : (CssProperty.assignRead (.ok x) edit).run.run s =
        (.ok ((edit x).run s).1, ((edit x).run s).2) := rfl
    rw [hlift, h x s]
    rfl

/-- What is written for a property is what is read for it. -/
theorem follows_write (d : CssProperty) (value : String) :
    Follows (d.write value) (d.read value) := by
  have hone {p : Property} {reading : Value.Reading p.Value} :
      Follows (CssProperty.assignRead reading (assign p)) (reading.map (Style.empty.set p ·)) :=
    follows_assignRead (merges_assign p)
  cases d with
  | length p => exact hone (p := .length p)
  | borderStyle => exact hone (p := .borderStyle)
  | color p => exact hone (p := .color p)
  | fontFamily => exact hone (p := .fontFamily)
  | fontSize => exact hone (p := .fontSize)
  | fontWeight => exact hone (p := .fontWeight)
  | textAlign => exact hone (p := .textAlign)
  | display => exact hone (p := .display)
  | flexDirection => exact hone (p := .flexDirection)
  | alignItems => exact hone (p := .alignItems)
  | justifyContent => exact hone (p := .justifyContent)
  | gridTemplate a => exact follows_assignRead (merges_assignTracks · a)
  | transform => exact follows_assignRead merges_assignTransform
  | position => exact hone (p := .position)
  | zIndex => exact hone (p := .zIndex)

/-- The values that one declaration sets, or why it sets none. -/
def reading (name value : String) : Except DeclarationError Style :=
  match CssProperty.ofName? name with
  | none => .error (.unknownProperty name)
  | some d => (d.read value).mapError (.invalidValue name)

/-- A declaration in place merges what is read from it. -/
theorem declare_eq_map (s : Style) (name value : String) :
    s.declare name value = (reading name value).map s.merge := by
  rw [Style.declare, reading]
  cases CssProperty.ofName? name with
  | none => rfl
  | some d =>
    dsimp only
    cases d.read value <;> rfl

/-- So it follows the reading of the declaration. -/
theorem follows_declare (name value : String) :
    Follows (declare name value) (reading name value) := by
  intro s
  rw [declare, reading]
  cases CssProperty.ofName? name with
  | none => rfl
  | some d =>
    dsimp only
    rw [ExceptT.run_adapt, StateT.run_map, follows_write d value s]
    cases d.read value <;> rfl

/-- What is read belongs to a property of that name. -/
theorem exists_of_reading_eq_ok {name value : String} {values : Style}
    (h : reading name value = .ok values) :
    ∃ d : CssProperty, d.name = name ∧ d.read value = .ok values := by
  rw [reading] at h
  cases hname : CssProperty.ofName? name with
  | none =>
    rw [hname] at h
    cases h
  | some d =>
    rw [hname] at h
    dsimp only at h
    refine ⟨d, CssProperty.name_of_ofName? hname, ?_⟩
    cases hread : d.read value with
    | error fault =>
      rw [hread] at h
      cases h
    | ok other =>
      rw [hread] at h
      exact congrArg _ (Except.ok.inj h)

/-- A length is read from a single token. -/
theorem length_eq_lengthOf {value : String} {t : Token} (h : Value.tokens value = .ok [t]) :
    Value.length value = Value.lengthOf value t := by
  rw [Value.length, h]
  rfl

/-- The text that stands in for an unreadable length is read as the length that does. -/
theorem read_fallbackText (p : LengthProperty) :
    Value.length (CssProperty.fallbackText p) = .ok p.fallback := by
  have hauto : Value.length "fit-content" = .ok .auto :=
    (Value.length_css_gives .horizontal .auto).eq_ok trivial
  have hzero : Value.length "0" = .ok (.px 0) := by
    have hscan : Token.scan? ((Numeral.ofNat 0).text ++ []) = _ :=
      Token.scan?_number _ (by simp)
    rw [List.append_nil, Token.scan?_nil] at hscan
    have htokens : Value.tokens "0" = .ok [⟨.number, (Numeral.ofNat 0).text⟩] :=
      Value.tokens_of_scan? hscan
    have hnumber : Token.number? ⟨.number, (Numeral.ofNat 0).text⟩ = some 0 := by
      rw [Token.number?_text, Numeral.value_ofNat]
      rfl
    have hread : Value.lengthOf "0" ⟨.number, (Numeral.ofNat 0).text⟩ = .ok (.px 0) := by
      have hsame : (some (0 : Binary64)).any (· == 0) = true := by decide +kernel
      rw [Value.lengthOf]
      dsimp only
      rw [hnumber, if_pos hsame]
    exact (length_eq_lengthOf htokens).trans hread
  cases p with
  | width | height => exact hauto
  | _ => exact hzero

/-- The default that is written for a property is the one that it has. -/
theorem merges_writeFallback (d : CssProperty) : Merges d.writeFallback d.fallback := by
  cases d with
  | length p =>
    intro s
    have hwrite := follows_write (.length p) (CssProperty.fallbackText p) s
    rw [CssProperty.read, read_fallbackText] at hwrite
    rw [CssProperty.writeFallback, discard, map_const, Function.comp_apply, StateT.run_map, hwrite]
    rfl
  | gridTemplate a => exact merges_assignTracks ⟨1, .auto⟩ a
  | transform => exact merges_assignTransform .identity
  | zIndex => exact merges_assign .zIndex 0
  | _ => exact fun s => congrArg (Prod.mk ()) s.merge_empty.symm

/-- In place, a declaration has the effect that it has on its own. -/
theorem run_absorb (name value : String) (s : Style) :
    (absorb name value).run s = ((), s.absorb name value) := by
  rw [absorb, StateT.run_bind, follows_declare name value s, reading, Style.absorb]
  cases hname : CssProperty.ofName? name with
  | none => rfl
  | some d =>
    dsimp only
    have hfallback : d.writeFallback.run s = ((), s.merge d.fallback) := merges_writeFallback d s
    cases hread : d.read value with
    | ok values =>
      simp only [CssProperty.contribution, hread]
      rfl
    | error fault =>
      simp only [CssProperty.contribution, hread]
      exact hfallback

/-- In place, declarations are read as they are. -/
theorem run_read (declarations : Declarations) (inherited : Option Position) :
    (read declarations inherited).run Style.empty =
      ((), Style.ofDeclarationsOver declarations inherited) := by
  have hentries (entries : List (String × String)) (s : Style) :
      (entries.forM fun entry => absorb entry.1 entry.2).run s =
        ((), entries.foldl (fun s entry => s.absorb entry.1 entry.2) s) := by
    induction entries generalizing s with
    | nil => rfl
    | cons entry entries ih =>
      change (absorb entry.1 entry.2 >>= fun _ => entries.forM fun entry =>
        absorb entry.1 entry.2).run s = _
      rw [StateT.run_bind, run_absorb]
      exact ih _
  rw [read, StateT.run_bind, hentries, Style.ofDeclarationsOver]
  cases inherited <;> rfl

/-- Applying a declaration under a name either fails on every style and leaves it as it was, or
gives every style the same values for what belongs to the name, whatever it had before, and changes
nothing else. -/
def IsIsolated (name : String) (attempt : StyleAttempt ε Unit) : Prop :=
  (∃ error, ∀ s : Style, attempt.run.run s = (.error error, s)) ∨
    ∃ values : Style, (∀ p, (values.get p).isSome = true ↔ (owner p).name = name) ∧
      ∀ s : Style, ∃ t, attempt.run.run s = (.ok (), t) ∧
        ∀ p, t.get p = if (owner p).name = name then values.get p else s.get p

/-- An attempt is isolated if what it merges is all that belongs to the name. -/
theorem Follows.isIsolated {name : String} {attempt : StyleAttempt ε Unit}
    {reading : Except ε Style} (h : Follows attempt reading)
    (hset : ∀ values, reading = .ok values →
      ∀ p, (values.get p).isSome = true ↔ (owner p).name = name) : IsIsolated name attempt := by
  cases reading with
  | error fault => exact .inl ⟨fault, h⟩
  | ok values =>
    refine .inr ⟨values, hset values rfl, fun s => ⟨s.merge values, h s, fun p => ?_⟩⟩
    rw [Style.get_merge]
    split
    · next howner =>
      obtain ⟨x, hx⟩ := Option.isSome_iff_exists.1 ((hset values rfl p).2 howner)
      rw [hx, Option.some_or]
    · next howner =>
      have hnone : values.get p = none := by
        rw [← Option.not_isSome_iff_eq_none, hset values rfl p]
        exact howner
      rw [hnone, Option.none_or]

/-- A declaration is applied without regard to what the style holds, and without an effect on what
does not belong to its name. -/
theorem isIsolated_declare (name value : String) : IsIsolated name (declare name value) := by
  refine (follows_declare name value).isIsolated fun values hvalues p => ?_
  obtain ⟨d, rfl, hread⟩ := exists_of_reading_eq_ok hvalues
  constructor
  · intro hset
    by_contra hne
    rw [CssProperty.get_read hread fun howner => hne (howner ▸ rfl)] at hset
    cases hset
  · intro howner
    exact CssProperty.isSome_get_read hread (CssProperty.name_injective howner)

end InPlace

namespace Style

open CssProperty (owner)

variable {declarations other : Declarations} {p : Property}

/-- A value depends on the declaration of its owner. -/
theorem get_absorbed_congr (h : declarations.get? (owner p).name = other.get? (owner p).name) :
    (absorbed declarations).get p = (absorbed other).get p := by
  rw [get_absorbed, get_absorbed, h]

/-- The same declarations read the same in any order. -/
theorem ofDeclarationsOver_of_perm (h : declarations.entries.Perm other.entries)
    (inherited : Option Position) :
    ofDeclarationsOver declarations inherited = ofDeclarationsOver other inherited := by
  have hsame : absorbed declarations = absorbed other :=
    ext_get fun p => get_absorbed_congr (OrderedMap.get?_of_perm h _)
  rw [ofDeclarationsOver_eq, ofDeclarationsOver_eq, hsame]

/-- Two styles that differ in what belongs to one name. If that name is the stacking order, a
relative position that counts as implied may be set in only one of them, unless a position is
inherited. -/
structure DiffersOnlyAt (name : String) (inherited : Option Position) (s t : Style) : Prop where
  others : ∀ p, p ≠ .position → (owner p).name ≠ name → s.get p = t.get p
  position : CssProperty.position.name ≠ name → s.position = t.position ∨
    name = CssProperty.zIndex.name ∧ inherited = none ∧
      (s.position = none ∧ t.position = some .relative ∨
        s.position = some .relative ∧ t.position = none)

/-- Where declarations differ under one name, the styles that are read differ in what belongs to
that name. -/
theorem differsOnlyAt_ofDeclarationsOver {name : String} (inherited : Option Position)
    (h : ∀ n, n ≠ name → declarations.get? n = other.get? n) :
    DiffersOnlyAt name inherited (ofDeclarationsOver declarations inherited)
      (ofDeclarationsOver other inherited) where
  others p hp howner := by
    rw [get_ofDeclarationsOver_of_ne _ _ hp, get_ofDeclarationsOver_of_ne _ _ hp]
    exact get_absorbed_congr (h _ howner)
  position howner := by
    have hposition : (absorbed declarations).position = (absorbed other).position :=
      get_absorbed_congr (p := .position) (h _ howner)
    rw [ofDeclarationsOver_eq, ofDeclarationsOver_eq]
    cases inherited with
    | some _ => exact .inl hposition
    | none =>
      rw [Option.isNone_none, if_pos rfl, if_pos rfl, position_withoutImpliedPosition,
        position_withoutImpliedPosition, hposition]
      by_cases hz : CssProperty.zIndex.name = name
      · cases (absorbed declarations).zIndex <;> cases (absorbed other).zIndex <;>
          cases (absorbed other).position with
          | none => exact .inl rfl
          | some position => cases position <;> simp [hz]
      · have hsame : (absorbed declarations).zIndex = (absorbed other).zIndex :=
          get_absorbed_congr (p := .zIndex) (h _ hz)
        rw [hsame]
        exact .inl rfl

end Style

namespace InPlace

/-- A declaration that fails leaves the style as it was; one that is applied gives every style the
same values for what belongs to its name, and changes nothing else. So declarations read the same in
any order, and where two sets of them differ under one name only, what is read differs in nothing
but what belongs to that name, and in whether a relative position next to a stacking order counts
as implied. -/
theorem isIsolated_declare_read (inherited : Option Position) :
    (∀ name value, IsIsolated name (declare name value) ∧ ∀ s : Style,
      (declare name value).run.run s =
        match s.declare name value with
        | .ok t => (.ok (), t)
        | .error error => (.error error, s)) ∧
    ∀ declarations : Declarations,
      (read declarations inherited).run Style.empty =
          ((), Style.ofDeclarationsOver declarations inherited) ∧
        (∀ other : Declarations, declarations.entries.Perm other.entries →
          Style.ofDeclarationsOver declarations inherited =
            Style.ofDeclarationsOver other inherited) ∧
        ∀ (other : Declarations) (name : String),
          (∀ n, n ≠ name → declarations.get? n = other.get? n) →
            Style.DiffersOnlyAt name inherited (Style.ofDeclarationsOver declarations inherited)
              (Style.ofDeclarationsOver other inherited) := by
  refine ⟨fun name value => ⟨isIsolated_declare name value, fun s => ?_⟩, fun declarations =>
    ⟨run_read declarations inherited, fun other h => Style.ofDeclarationsOver_of_perm h inherited,
      fun other name h => Style.differsOnlyAt_ofDeclarationsOver inherited h⟩⟩
  rw [follows_declare name value s, declare_eq_map]
  cases reading name value <;> rfl

/-- A stacking order that implies a relative position, beside an unreadable grid. -/
def stacked : Declarations :=
  OrderedMap.ofList [("z-index", "3"), ("grid-template-rows", "repeat(2"), ("position", "relative")]

theorem isIsolated_declare_read_stacked :
    Style.ofDeclarationsOver stacked none =
        Style.ofDeclarationsOver (OrderedMap.ofList stacked.entries.reverse) none ∧
      Style.DiffersOnlyAt "z-index" none (Style.ofDeclarationsOver stacked none)
        (Style.ofDeclarationsOver (stacked.erase "z-index") none) ∧
      (Style.ofDeclarationsOver stacked none).position = none ∧
      (Style.ofDeclarationsOver (stacked.erase "z-index") none).position = some .relative := by
  obtain ⟨-, hread⟩ := isIsolated_declare_read none
  obtain ⟨-, hperm, hdiffers⟩ := hread stacked
  refine ⟨hperm _ (by decide), hdiffers _ "z-index" fun n hn => ?_, by decide +kernel,
    by decide +kernel⟩
  have hkept : (n != "z-index") = true := bne_iff_ne.2 hn
  rw [OrderedMap.erase, OrderedMap.get?_filter, hkept]
  cases stacked.get? n <;> rfl

end InPlace

end Sitework
