import Sitework.Proofs.Style.CssColors
import Sitework.Proofs.Style.LastShown
import Sitework.Proofs.Stylesheet.Contents

/-!
# Colors in the stylesheets of a page

A color is written as it is stored, in the base sheet as well as in the blocks. An accepted page
holds colors that are read, and of these only the ones in a notation of CSS mean anything to a
browser: it drops a declaration with one of the other notations.
-/

namespace Sitework

namespace Element

variable {e : Element} {b : Breakpoint} {q : ColorProperty} {value : String}

/-- A color that an element declares is one that it stores. -/
theorem exists_color_of_mem_declarationsAt
    (h : (q.css, value) ∈ (e.declarationsAt b none).entries) :
    ∃ s ∈ e.styles, s.get (.color q) = some value := by
  have hshown : (e.resolvedStyle b).completed.shown.get (.color q) = some value := by
    rw [← OrderedMap.get?_eq_some_iff, declarationsAt_none] at h
    exact (Style.get?_declarations _ (.color q)).symm.trans h
  -- the groups that are completed have no colors
  rw [Style.get_shown_of_ne _ (by simp)] at hshown
  rcases Style.get_completed_eq_some hshown with hstored | ⟨g, -, hdefault⟩
  · exact meets_resolvedStyle (P := fun p x => ∃ s ∈ e.styles, s.get p = some x)
      (fun s hs p x hx => ⟨s, hs, hx⟩) b _ _ hstored
  · rw [CompositeGroup.get_defaults_of_rendersAlone rfl] at hdefault
    cases hdefault

end Element

namespace Css

variable {key : String} {p : Page} {rule : Rule}

/-- A rule is one for an element of those that the rules are for. -/
theorem exists_of_mem_rulesFor {declared : Element → List (String × String)} {es : List Element}
    (h : rule ∈ rulesFor declared es) :
    ∃ e ∈ es, rule = ⟨Selector.selected e.id, declared e⟩ := by
  obtain ⟨e, he, rfl⟩ := List.mem_map.1 h
  exact ⟨e, (List.mem_filter.1 he).1, rfl⟩

/-- The rules of both sheets. -/
def allRules (p : Page) : List Rule :=
  baseRules p ++ (blocks p).flatMap Prod.snd

/-- What a rule declares is declared by the element it is for, at some breakpoint. -/
theorem exists_declarationsAt_of_mem_allRules (h : rule ∈ allRules p) :
    ∃ e ∈ p.elements.values, rule.name = Selector.selected e.id ∧
      ∃ b : Breakpoint, rule.declarations ⊆ (e.declarationsAt b none).entries := by
  rcases List.mem_append.1 h with hbase | hblock
  · obtain ⟨e, he, rfl⟩ := exists_of_mem_rulesFor hbase
    exact ⟨e, he, rfl, .monitor, List.Subset.refl _⟩
  · obtain ⟨⟨width, rules⟩, hmem, hrule⟩ := List.mem_flatMap.1 hblock
    obtain ⟨b, -, hb⟩ := List.mem_filterMap.1 hmem
    obtain ⟨-, rfl, -⟩ := blockAt?_eq_some_iff.1 hb
    obtain ⟨e, he, rfl⟩ := exists_of_mem_rulesFor hrule
    exact ⟨e, (List.mem_filter.1 he).1, rfl, b, List.filter_subset_self _⟩

/-- The sheets of an accepted page are read as rules that declare colors as they are stored. Each of
them is read back as a color, and it has a notation of CSS exactly if it is not written as digits
without a hash, with a plus sign among its digits, as a call of a function that CSS does not have,
or with blanks before the parenthesis of a call. -/
theorem exists_read?_isCss_iff (h : Validation.checkPage key p = .ok ()) :
    ∃ (base : List Rule) (blocks : List (Nat × List Rule)),
      read? p.stylesheets.base = some (base.map .rule) ∧
      read? p.stylesheets.responsive = some (blocks.map fun block => .media block.1 block.2) ∧
      ∀ rule ∈ base ++ blocks.flatMap Prod.snd, ∀ (q : ColorProperty) (value : String),
        (q.css, value) ∈ rule.declarations →
          (∃ e ∈ p.elements.values, rule.name = Selector.selected e.id ∧
            ∃ s ∈ e.styles, s.get (.color q) = some value) ∧
          (∃ normal, Value.color value = .ok normal) ∧
          (Color.IsCss (Text.trim value.toList) ↔ ¬Color.IsForeign (Text.trim value.toList)) := by
  refine ⟨baseRules p, blocks p, ?_, ?_, ?_⟩
  · rw [read?_base h, rulesOf_eq_rulesFor]
    rfl
  · rw [read?_responsive h, blocks, List.map_filterMap]
    exact congrArg some (List.filterMap_congr fun b _ => mediaAt?_eq_blockAt? p b)
  · intro rule hrule q value hvalue
    obtain ⟨e, he, hname, b, hsubset⟩ := exists_declarationsAt_of_mem_allRules hrule
    obtain ⟨s, hs, hstored⟩ := e.exists_color_of_mem_declarationsAt (hsubset hvalue)
    obtain ⟨⟨id, _⟩, hentry, rfl⟩ := List.mem_map.1 he
    have hcolor : Validation.isColor value = true :=
      (Validation.isAllowed_of_checkPage h _ hentry).2 s hs (.color q) value hstored
    exact ⟨⟨_, he, hname, s, hs, hstored⟩, ⟨_, Color.color_eq_ok hcolor⟩,
      Color.isCss_iff_not_isForeign hcolor⟩

/-- A text whose colors are accepted, although CSS knows none of them. -/
def swatch : Element :=
  { Element.new "swatch" .text with
    style := { color := some "ff0000", backgroundColor := some "hsv(0, 0%, 50%)" }
    responsive :=
      { tablet := some { color := some " #+1+1+1", borderColor := some "rgb (1,2,3)" } } }

/-- A page with that text. -/
def swatchPage : Page :=
  (Page.new "home" "Home").insert swatch

/-- What the base sheet declares for that text. -/
def swatchRule : Rule :=
  ⟨"swatch", [("color", "ff0000"), ("background-color", "hsv(0, 0%, 50%)")]⟩

theorem exists_read?_isCss_iff_swatch : Validation.checkPage "home" swatchPage = .ok () ∧
    read? swatchPage.stylesheets.base = some [.rule swatchRule] ∧
    ¬Color.IsCss (Text.trim "ff0000".toList) ∧
    ¬Color.IsCss (Text.trim "hsv(0, 0%, 50%)".toList) := by
  have haccepted : Validation.checkPage "home" swatchPage = .ok () := by decide +kernel
  have hread : read? swatchPage.stylesheets.base = some [.rule swatchRule] := by rfl
  obtain ⟨base, blocks, hbase, -, hcolors⟩ := exists_read?_isCss_iff haccepted
  have hrules : base.map Statement.rule = [swatchRule].map .rule :=
    Option.some_inj.1 (hbase.symm.trans hread)
  obtain rfl : base = [swatchRule] :=
    List.map_injective_iff.2 (fun _ _ => Statement.rule.inj) hrules
  have hrule : swatchRule ∈ [swatchRule] ++ blocks.flatMap Prod.snd := List.mem_cons_self
  obtain ⟨-, -, htext⟩ := hcolors _ hrule .text "ff0000" List.mem_cons_self
  obtain ⟨-, -, hback⟩ := hcolors _ hrule .background "hsv(0, 0%, 50%)"
    (List.mem_cons_of_mem _ List.mem_cons_self)
  refine ⟨haccepted, hread, fun hcss => htext.1 hcss ?_, fun hcss => hback.1 hcss ?_⟩
  · exact .bare ⟨by decide, Text.forall_mem_of_all (by decide)⟩
  · have hcall : Color.IsForeign ("hsv".toList ++ '(' :: "0, 0%, 50%".toList ++ [')']) :=
      .function (by decide)
    exact hcall

end Css

end Sitework
