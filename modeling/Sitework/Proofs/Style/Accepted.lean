import Sitework.Proofs.Style.Completion
import Sitework.Proofs.Text.Trim
import Sitework.Validation

/-!
# Accepted styles

The check of styles is one condition on each value. Values that meet it and hold no negative zero
are read from their rendered form as they are, except that colors come back in normal form. So
what such a style declares is what is read from it, and different values are told apart.
-/

namespace Sitework

namespace Validation

/-- A text is a color if it is read as one. -/
theorem isColor_iff_parse {text : String} :
    isColor text = true ↔ ∃ color, Color.parse text = .ok color := by
  rw [isColor]
  cases Color.parse text with
  | ok color => exact iff_of_true rfl ⟨color, rfl⟩
  | error cause =>
    refine iff_of_false Bool.false_ne_true ?_
    rintro ⟨_, h⟩
    cases h

/-- A text is a color if a color can be read from it. -/
theorem isColor_iff {text : String} :
    isColor text = true ↔ ∃ normal, Value.color text = .ok normal := by
  rw [isColor_iff_parse, Value.color]
  cases Color.parse text with
  | ok color => exact iff_of_true ⟨color, rfl⟩ ⟨color.css, rfl⟩
  | error cause =>
    constructor <;>
    · rintro ⟨_, h⟩
      cases h

end Validation

namespace Color

/-- The normal form of a color text; any other text as it is. -/
def normalText (text : String) : String :=
  match parse text with
  | .ok c => c.css
  | .error _ => text

/-- A color is read as its normal form. -/
theorem color_eq_ok {text : String} (h : Validation.isColor text = true) :
    Value.color text = .ok (normalText text) := by
  obtain ⟨c, hparse⟩ := Validation.isColor_iff_parse.1 h
  rw [Value.color, normalText, hparse]

end Color

namespace Validation

/-- A font family is accepted if it is not blank and holds no character that ends it in quotes. -/
theorem isFontFamily_iff {family : String} : isFontFamily family = true ↔
    (∃ c ∈ family.toList, Text.isBlank c = false) ∧
      ∀ c ∈ family.toList, endsFamily c = false ∧ isControl c = false := by
  simp only [isFontFamily, Bool.and_eq_true, bne_iff_ne, ne_eq, Text.trim_eq_nil_iff, not_forall,
    exists_prop, Bool.not_eq_true, Bool.not_eq_true', List.any_eq_false, Bool.or_eq_false_iff]

/-- No font family holds what ends one, or a control character. -/
theorem not_mem_of_isFontFamily {family : String} (h : isFontFamily family = true) {c : Char}
    (hc : endsFamily c = true ∨ isControl c = true) : c ∉ family.toList := by
  intro hmem
  obtain ⟨hends, hcontrol⟩ := (isFontFamily_iff.1 h).2 c hmem
  rw [hends, hcontrol] at hc
  exact hc.elim Bool.false_ne_true Bool.false_ne_true

end Validation

namespace Property

/-- Whether the check of styles accepts a value. -/
def allows : (p : Property) → p.Value → Bool
  | .color _, text => Validation.isColor text
  | .fontFamily, family => Validation.isFontFamily family
  | _, _ => true

/-- The value that is read for an accepted one. -/
def normal : (p : Property) → p.Value → p.Value
  | .color _, text => Color.normalText text
  | _, x => x

/-- Accepted values whose numbers are exact. -/
structure Accepts (p : Property) (x : p.Value) : Prop where
  allowed : p.allows x = true
  exact : ∀ n ∈ p.numbers x, n.IsExact

/-- Values with exact numbers are the same only if they are equal. -/
theorem eq_of_sameValue {p : Property} {x y : p.Value} (h : p.sameValue x y = true)
    (hx : ∀ n ∈ p.numbers x, n.IsExact) (hy : ∀ n ∈ p.numbers y, n.IsExact) : x = y := by
  have hone {m n : Binary64} (hm : m.IsExact) (hn : n.IsExact) (h : (m == n) = true) : m = n :=
    Binary64.eq_of_sameValue h hm.signed hn.signed
  cases p with
  | length q =>
    cases x <;> cases y <;> simp only [sameValue, Length.sameValue] at h <;>
      first | rfl | simp at h | skip
    exact congrArg Length.px (hone (hx _ List.mem_cons_self) (hy _ List.mem_cons_self) h)
  | fontSize =>
    cases x <;> cases y <;> simp only [sameValue, FontSize.sameValue] at h <;>
      first | rfl | simp at h | skip
    exact congrArg FontSize.px (hone (hx _ List.mem_cons_self) (hy _ List.mem_cons_self) h)
  | trackSize a =>
    cases x <;> cases y <;> simp only [sameValue, TrackSize.sameValue] at h <;>
      first | rfl | simp at h | skip
    exact congrArg TrackSize.px (hone (hx _ List.mem_cons_self) (hy _ List.mem_cons_self) h)
  | transform part => exact hone (hx _ List.mem_cons_self) (hy _ List.mem_cons_self) h
  | _ => exact of_decide_eq_true h

/-- The normal form of a value has the same numbers. -/
theorem numbers_normal (p : Property) (x : p.Value) : p.numbers (p.normal x) = p.numbers x := by
  cases p <;> rfl

/-- A value with finite numbers is plain, unless it is a color or a font family. -/
theorem plain_of_isFinite {p : Property} {x : p.Value} (h : ∀ n ∈ p.numbers x, n.IsFinite)
    (hcolor : ∀ q, p ≠ .color q) (hfamily : p ≠ .fontFamily) : p.Plain x := by
  cases p with
  | color q => exact absurd rfl (hcolor q)
  | fontFamily => exact absurd rfl hfamily
  | length q =>
    cases x with
    | px n => exact h n List.mem_cons_self
    | _ => trivial
  | fontSize =>
    cases x with
    | px n => exact h n List.mem_cons_self
    | inherit => trivial
  | trackSize a =>
    cases x with
    | px n => exact h n List.mem_cons_self
    | auto => trivial
  | transform part => exact h x List.mem_cons_self
  | _ => trivial

/-- An accepted value other than a color is plain. -/
theorem Accepts.plain {p : Property} {x : p.Value} (h : p.Accepts x) (hcolor : ∀ q, p ≠ .color q) :
    p.Plain x := by
  by_cases hp : p = .fontFamily
  · subst hp
    exact Validation.not_mem_of_isFontFamily h.allowed (.inl rfl)
  · exact plain_of_isFinite (fun n hn => (h.exact n hn).finite) hcolor hp

end Property

namespace Validation

/-- Some checks succeed together if each does. -/
theorem first_eq_ok_iff {checks : List Check} :
    first checks = .ok () ↔ ∀ c ∈ checks, c = .ok () := by
  have hcons (c : Check) (cs : List Check) : first (c :: cs) = c.bind fun _ => first cs := rfl
  induction checks with
  | nil => exact ⟨fun _ _ hc => absurd hc List.not_mem_nil, fun _ => rfl⟩
  | cons c cs ih =>
    rw [hcons, List.forall_mem_cons]
    cases c with
    | error fault => exact ⟨nofun, fun h => absurd h.1 nofun⟩
    | ok _ => exact ⟨fun h => ⟨rfl, ih.1 h⟩, fun h => ih.2 h.2⟩

/-- Two checks succeed one after the other if each does. -/
theorem bind_eq_ok_iff {c d : Check} : (c >>= fun _ => d) = .ok () ↔ c = .ok () ∧ d = .ok () := by
  cases c with
  | error fault => exact ⟨nofun, fun h => absurd h.1 nofun⟩
  | ok _ => exact ⟨fun h => ⟨rfl, h⟩, fun h => h.2⟩

theorem ensure_eq_ok_iff {condition : Bool} {error : ValidationError} :
    ensure condition error = .ok () ↔ condition = true := by
  cases condition with
  | false => exact ⟨nofun, nofun⟩
  | true => exact ⟨fun _ => rfl, fun _ => rfl⟩

/-- The check of a style is one condition on each of its values. -/
theorem checkStyle_eq_ok_iff {page : Page} {e : Element} {s : Style} :
    checkStyle page e s = .ok () ↔ ∀ p x, s.get p = some x → p.allows x = true := by
  rw [checkStyle, first_eq_ok_iff]
  simp only [List.forall_mem_append, List.forall_mem_map, List.forall_mem_singleton]
  constructor
  · rintro ⟨hcolor, hfamily⟩ p x hx
    cases p with
    | color q =>
      have h := hcolor q (by cases q <;> decide)
      rw [hx] at h
      exact ensure_eq_ok_iff.1 h
    | fontFamily =>
      have hx : s.fontFamily = some x := hx
      rw [hx] at hfamily
      exact ensure_eq_ok_iff.1 hfamily
    | _ => rfl
  · intro h
    refine ⟨fun q _ => ?_, ?_⟩
    · split
      · next x hx => exact ensure_eq_ok_iff.2 (h (.color q) x hx)
      · rfl
    · split
      · next x hx => exact ensure_eq_ok_iff.2 (h .fontFamily x hx)
      · rfl

end Validation

namespace Style

/-- Every value of the style is accepted and has exact numbers. -/
def IsAccepted (s : Style) : Prop :=
  ∀ p x, s.get p = some x → p.Accepts x

/-- Every number in the style is finite and not a negative zero. -/
def HasExactNumbers (s : Style) : Prop :=
  ∀ p x, s.get p = some x → ∀ n ∈ p.numbers x, n.IsExact

/-- A style is accepted if its values are allowed and its numbers are exact. -/
theorem isAccepted_iff {s : Style} :
    s.IsAccepted ↔ (∀ p x, s.get p = some x → p.allows x = true) ∧ s.HasExactNumbers := by
  constructor
  · intro h
    exact ⟨fun p x hx => (h p x hx).allowed, fun p x hx => (h p x hx).exact⟩
  · rintro ⟨hallowed, hexact⟩ p x hx
    exact ⟨hallowed p x hx, hexact p x hx⟩

/-- Every value of the style is accepted, whatever its numbers. -/
def IsAllowed (s : Style) : Prop :=
  s.Meets fun p x => p.allows x = true

section Meets

variable {P : (p : Property) → p.Value → Prop} {s t : Style}

/-- Completing adds values of defaults only. -/
theorem Meets.completed (h : s.Meets P) (hdefaults : ∀ g : CompositeGroup, g.defaults.Meets P) :
    s.completed.Meets P := by
  intro p x hx
  rcases get_completed_eq_some hx with hx | ⟨g, -, hg⟩
  · exact h p x hx
  · exact hdefaults g p x hg

end Meets

theorem IsAccepted.isAllowed {s : Style} (h : s.IsAccepted) : s.IsAllowed :=
  (isAccepted_iff.1 h).1

theorem IsAccepted.withPosition {s : Style} (h : s.IsAccepted) (position : Option Position) :
    (s.withPosition position).IsAccepted :=
  Meets.withPosition h (fun _ => ⟨rfl, fun _ hn => absurd hn List.not_mem_nil⟩) position

theorem IsAccepted.shown {s : Style} (h : s.IsAccepted) : s.shown.IsAccepted :=
  h.withPosition _

/-- The defaults of groups are accepted. -/
theorem isAccepted_defaults (g : CompositeGroup) : g.defaults.IsAccepted := by
  intro p x hx
  have hset : (g.defaults.get p).isSome = true := by rw [hx]; rfl
  have hzero : (0 : Binary64).IsExact := Binary64.isExact_ofInt (n := 0) (by decide)
  have hone : (1 : Binary64).IsExact := Binary64.isExact_ofInt (n := 1) (by decide)
  rcases CompositeGroup.owner_of_get_defaults hset with ⟨rfl, howner⟩ | ⟨rfl, a, rfl⟩
  · cases p with
    | transform part =>
      rw [CompositeGroup.defaults, Transform.get_toStyle, Option.some.injEq] at hx
      refine ⟨rfl, fun n hn => ?_⟩
      obtain rfl := List.mem_singleton.1 hn
      subst hx
      cases part with
      | scaleX | scaleY => exact hone
      | _ => exact hzero
    | _ => cases howner
  · refine ⟨rfl, ?_⟩
    cases a <;> cases hx <;> exact fun n hn => absurd hn List.not_mem_nil

theorem IsAccepted.completed {s : Style} (h : s.IsAccepted) : s.completed.IsAccepted :=
  Meets.completed h isAccepted_defaults

/-- What a style renders from, once its groups are whole, is accepted with its values. -/
theorem IsAllowed.shown_completed {s : Style} (h : s.IsAllowed) : s.completed.shown.IsAllowed :=
  Meets.withPosition (Meets.completed h fun g => (isAccepted_defaults g).isAllowed) (fun _ => rfl) _

end Style

namespace CssProperty

/-- The text that is rendered for a value that was read. -/
def normalText : CssProperty → String → String
  | .color _, text => Color.normalText text
  | _, text => text

/-- What no color property owns is no color. -/
theorem ne_color_of_owner {d : CssProperty} (hd : ∀ q, d ≠ .color q) {p : Property}
    (hp : owner p = d) : ∀ q, p ≠ .color q := by
  rintro q rfl
  exact hd q hp.symm

/-- What is read for accepted values are these, with colors in normal form. -/
theorem exists_read {d : CssProperty} {s : Style} (h : s.IsAccepted) {value : String}
    (hrender : d.render? s = some value) :
    ∃ t, d.read value = .ok t ∧ ∀ p, owner p = d → t.get p = (s.get p).map p.normal := by
  by_cases hd : ∃ q, d = .color q
  · obtain ⟨q, rfl⟩ := hd
    have hget : s.get (.color q) = some value := hrender
    refine ⟨Style.empty.set (.color q) (Color.normalText value), ?_, fun p hp => ?_⟩
    · rw [read, Color.color_eq_ok (h _ _ hget).allowed]
      rfl
    · obtain rfl : p = .color q := eq_of_rendersAlone rfl hp
      rw [Style.get_set_self, hget]
      rfl
  · simp only [not_exists] at hd
    obtain ⟨t, hread, ht⟩ := read_render? hrender fun p hp x hx =>
      (h p x hx).plain (ne_color_of_owner hd hp)
    refine ⟨t, hread, fun p hp => ?_⟩
    have hnormal : p.normal = id := by
      cases p with
      | color q => exact absurd hp.symm (hd q)
      | _ => rfl
    rw [ht p hp, hnormal, Option.map_id, id]

end CssProperty

namespace Style

variable {s : Style}

/-- Of an accepted style everything is read that is rendered. -/
theorem IsAccepted.get_settle (h : s.IsAccepted) (p : Property) :
    s.settle.get p =
      if ((CssProperty.owner p).render? s).isSome then (s.get p).map p.normal else none := by
  rw [Style.get_settle]
  cases hrender : (CssProperty.owner p).render? s with
  | none => rfl
  | some value =>
    obtain ⟨t, hread, ht⟩ := CssProperty.exists_read h hrender
    rw [Option.bind_some, CssProperty.contribution, hread, Option.isSome_some, if_pos rfl]
    exact ht p rfl

/-- Settling an accepted style keeps the properties whose owners are rendered. -/
theorem IsAccepted.isSome_get_settle (h : s.IsAccepted) (p : Property) :
    (s.settle.get p).isSome = ((CssProperty.owner p).render? s).isSome := by
  rw [h.get_settle]
  split
  · next hrender => rw [Option.isSome_map, CssProperty.isSome_render?_iff.1 hrender p rfl, hrender]
  · next hrender => rw [Option.isSome_none, Bool.eq_false_iff.2 hrender]

/-- A value that is rendered alone is read. -/
theorem IsAccepted.get_settle_of_alone (h : s.IsAccepted) {p : Property}
    (hp : CssProperty.rendersAlone p = true) : s.settle.get p = (s.get p).map p.normal := by
  rw [h.get_settle]
  split
  · rfl
  · next hrender =>
    cases hget : s.get p with
    | none => rfl
    | some x =>
      refine absurd (CssProperty.isSome_render?_iff.2 fun q hq => ?_) hrender
      rw [CssProperty.eq_of_rendersAlone hp hq, hget]
      rfl

/-- What is read from an accepted style renders the same, with colors in normal form. -/
theorem IsAccepted.render?_settle (h : s.IsAccepted) (d : CssProperty) :
    d.render? s.settle = (d.render? s).map d.normalText := by
  by_cases hd : ∃ q, d = .color q
  · obtain ⟨q, rfl⟩ := hd
    exact h.get_settle_of_alone (p := .color q) rfl
  · simp only [not_exists] at hd
    have hnormal : d.normalText = id := by
      cases d with
      | color q => exact absurd rfl (hd q)
      | _ => rfl
    rw [hnormal, Option.map_id, id]
    by_cases hrender : (d.render? s).isSome = true
    · refine CssProperty.render?_congr fun p hp => ?_
      have hkept : p.normal = id := by
        cases p with
        | color q => exact absurd hp.symm (hd q)
        | _ => rfl
      rw [h.get_settle, hp, if_pos hrender, hkept, Option.map_id, id]
    · have hsettled : (d.render? s.settle).isSome = false := by
        rw [Bool.eq_false_iff, Ne, CssProperty.isSome_render?_iff]
        intro hall
        obtain ⟨p, hp, -⟩ := d.exists_owner
        have hset := hall p hp
        rw [h.isSome_get_settle, hp] at hset
        exact hrender hset
      rw [Option.isSome_eq_false_iff, Option.isNone_iff_eq_none] at hsettled
      rw [hsettled, Option.not_isSome_iff_eq_none.1 hrender]

/-- Values read from an accepted style are the same only if they are equal. -/
theorem IsAccepted.exact_settle (h : s.IsAccepted) {p : Property} {x : p.Value}
    (hx : s.settle.get p = some x) : ∀ n ∈ p.numbers x, n.IsExact := by
  rw [h.get_settle] at hx
  split at hx
  · obtain ⟨y, hy, rfl⟩ := Option.map_eq_some_iff.1 hx
    rw [p.numbers_normal]
    exact (h p y hy).exact
  · exact absurd hx (Option.some_ne_none x).symm

/-- What is read from a style with its implied position shows that position. -/
theorem IsAccepted.shown_settle (h : s.IsAccepted) : s.shown.settle.shown = s.shown.settle := by
  refine ext_get fun p => ?_
  by_cases hp : p = .position
  · subst hp
    have hposition : s.shown.settle.position = s.shown.position := by
      have hget := h.shown.get_settle_of_alone (p := .position) rfl
      exact hget.trans (congrFun Option.map_id _)
    have hz : s.shown.settle.zIndex = s.zIndex := by
      have hget := h.shown.get_settle_of_alone (p := .zIndex) rfl
      exact hget.trans (congrFun Option.map_id _)
    change s.shown.settle.shown.position = s.shown.settle.position
    rw [position_shown, hposition, hz, position_shown]
    cases s.zIndex <;> cases s.position <;> rfl
  · exact get_shown_of_ne _ hp

end Style

namespace Layers

/-- The layers of the list are those that are stored. -/
@[simp] theorem mem_entries {α : Type} {layers : Layers α} {b : Breakpoint} {layer : α} :
    (b, layer) ∈ layers.entries ↔ layers.get b = some layer := by
  simp [entries, b.mem_all]

end Layers

namespace Element

variable {e : Element}

/-- The base style and the layers. -/
def styles (e : Element) : List Style :=
  e.style :: e.responsive.entries.map Prod.snd

/-- The styles of an element are its base style and its layers. -/
theorem mem_styles_iff {s : Style} :
    s ∈ e.styles ↔ s = e.style ∨ ∃ b, e.responsive.get b = some s := by
  rw [styles, List.mem_cons, List.mem_map, Prod.exists]
  simp only [Layers.mem_entries, exists_eq_right]

theorem mem_styles_of_layer {b : Breakpoint} {layer : Style} (h : e.responsive.get b = some layer) :
    layer ∈ e.styles :=
  mem_styles_iff.2 (.inr ⟨b, h⟩)

/-- Values in force meet what the values of the base style and of the layers do. -/
theorem meets_resolvedStyle {P : (p : Property) → p.Value → Prop}
    (h : ∀ s ∈ e.styles, s.Meets P) (b : Breakpoint) : (e.resolvedStyle b).Meets P := by
  induction b using Breakpoint.widestFirst with
  | base => exact h _ List.mem_cons_self
  | step b w hw ih =>
    rw [resolvedStyle, Cascade.resolve_eq_cover _ _ hw]
    cases hlayer : e.responsive.get b with
    | none => exact ih
    | some layer => exact ih.merge (h layer (mem_styles_of_layer hlayer))

/-- A style in force is accepted if the base style and the layers are. -/
theorem isAccepted_resolvedStyle (h : ∀ s ∈ e.styles, s.IsAccepted) (b : Breakpoint) :
    (e.resolvedStyle b).IsAccepted :=
  meets_resolvedStyle h b

end Element

namespace Validation

/-- An accepted element is kept under its own name, and its styles hold accepted values. -/
theorem isAllowed_of_checkElement {page : Page} {key : String} {e : Element}
    (h : checkElement page key e = .ok ()) : key = e.id ∧ ∀ s ∈ e.styles, s.IsAllowed := by
  simp only [checkElement, bind_eq_ok_iff, ensure_eq_ok_iff, first_eq_ok_iff,
    List.forall_mem_map] at h
  obtain ⟨-, hkey, -, -, hbase, hlayers, -⟩ := h
  refine ⟨beq_iff_eq.1 hkey, List.forall_mem_cons.2 ⟨checkStyle_eq_ok_iff.1 hbase, ?_⟩⟩
  rw [List.forall_mem_map]
  exact fun entry hentry => checkStyle_eq_ok_iff.1 (hlayers entry hentry)

/-- The elements of an accepted page are kept under their own names and hold accepted values. -/
theorem isAllowed_of_checkPage {key : String} {page : Page} (h : checkPage key page = .ok ()) :
    ∀ entry ∈ page.elements.entries,
      entry.1 = entry.2.id ∧ ∀ s ∈ entry.2.styles, s.IsAllowed := by
  simp only [checkPage, bind_eq_ok_iff, first_eq_ok_iff, List.forall_mem_map] at h
  obtain ⟨-, -, -, helements⟩ := h
  exact fun entry hentry => isAllowed_of_checkElement (helements entry hentry)

/-- The elements of an accepted page have different names. -/
theorem nodup_ids_of_checkPage {key : String} {page : Page} (h : checkPage key page = .ok ()) :
    (page.elements.values.map (·.id)).Nodup := by
  have hkeys : page.elements.values.map (·.id) = page.elements.keys := by
    rw [OrderedMap.values, OrderedMap.keys, List.map_map]
    exact List.map_congr_left fun entry hentry => (isAllowed_of_checkPage h entry hentry).1.symm
  rw [hkeys]
  exact page.elements.nodup

end Validation

end Sitework
