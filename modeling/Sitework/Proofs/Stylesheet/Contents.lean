import Sitework.Proofs.Stylesheet.Written

/-!
# What the stylesheets of a page contain

Whatever the names, colors and font families of an accepted page are, its sheets are read as the
rules for its elements and nothing else: those at the base with all that they declare, and blocks
from wide to narrow with what differs from the base. No rule and no block is empty.
-/

namespace Sitework

namespace Element

/-- What an element declares at a breakpoint and not in the same way at the base, in order. -/
def differencesAt (e : Element) (b : Breakpoint) : List (String × String) :=
  (e.declarationsAt b none).entries.filter fun (property, value) =>
    (e.declarationsAt .monitor none).get? property ≠ some value

end Element

namespace Css

/-- The rules for those of some elements that have any declarations, in order. -/
def rulesFor (declared : Element → List (String × String)) (es : List Element) : List Rule :=
  (es.filter fun e => declared e ≠ []).map fun e => ⟨Selector.selected e.id, declared e⟩

/-- The rules at the base, with all that elements declare there. -/
def baseRules (p : Page) : List Rule :=
  rulesFor (fun e => (e.declarationsAt .monitor none).entries) p.elements.values

/-- The rules of the block for a breakpoint: those of the elements with a layer at it, with what
they declare differently there. -/
def rulesAt (p : Page) (b : Breakpoint) : List Rule :=
  rulesFor (fun e => e.differencesAt b)
    (p.elements.values.filter fun e => (e.responsive.get b).isSome)

theorem rulesOf_eq_rulesFor (declarationsOf : Element → Declarations) (es : List Element) :
    rulesOf declarationsOf es = rulesFor (fun e => (declarationsOf e).entries) es := by
  induction es with
  | nil => rfl
  | cons e es ih =>
    rw [rulesOf] at ih ⊢
    rw [rulesFor] at ih ⊢
    rw [List.filterMap_cons, List.filter_cons, ih]
    by_cases hempty : (declarationsOf e).entries = []
    · have hnone : (declarationsOf e).isEmpty = true := List.isEmpty_iff.2 hempty
      simp [hempty, hnone]
    · have hsome : (declarationsOf e).isEmpty = false :=
        Bool.eq_false_iff.2 fun h => hempty (List.isEmpty_iff.1 h)
      simp [hempty, hsome]

/-- No rule is empty. -/
theorem nonempty_of_mem_rulesFor {declared : Element → List (String × String)} {es : List Element}
    {rule : Rule} (h : rule ∈ rulesFor declared es) : rule.declarations ≠ [] := by
  obtain ⟨e, he, rfl⟩ := List.mem_map.1 h
  exact of_decide_eq_true (List.mem_filter.1 he).2

/-- What changes at a breakpoint is what is declared differently there. -/
theorem entries_changedDeclarations (b : Breakpoint) (e : Element) :
    (Stylesheet.changedDeclarations b e).entries = e.differencesAt b := by
  refine List.filter_congr fun entry _ => ?_
  rw [Stylesheet.baseDeclarations, Bool.eq_iff_iff, bne_iff_ne, decide_eq_true_iff]

/-- The width and the rules of the block for a breakpoint, if there are any. -/
def blockAt? (p : Page) (b : Breakpoint) : Option (Nat × List Rule) :=
  b.maxWidth?.bind fun width =>
    if rulesAt p b = [] then none else some (width, rulesAt p b)

/-- There is a block at a breakpoint with a greatest width where there are rules. -/
theorem blockAt?_eq_some_iff {p : Page} {b : Breakpoint} {width : Nat} {rules : List Rule} :
    blockAt? p b = some (width, rules) ↔
      b.maxWidth? = some width ∧ rules = rulesAt p b ∧ rules ≠ [] := by
  simp only [blockAt?, Option.bind_eq_some_iff, Option.ite_none_left_eq_some, Option.some.injEq,
    Prod.mk.injEq]
  constructor
  · rintro ⟨_, hwidth, hrules, rfl, rfl⟩
    exact ⟨hwidth, rfl, hrules⟩
  · rintro ⟨hwidth, rfl, hrules⟩
    exact ⟨width, hwidth, hrules, rfl, rfl⟩

/-- What a block is read as. -/
theorem mediaAt?_eq_blockAt? (p : Page) (b : Breakpoint) :
    mediaAt? p.elements.values b =
      (blockAt? p b).map fun block => .media block.1 block.2 := by
  have hrules : rulesOf (Stylesheet.changedDeclarations b)
      (p.elements.values.filter fun e => (e.responsive.get b).isSome) = rulesAt p b := by
    rw [rulesOf_eq_rulesFor, rulesAt]
    congr 1
    funext e
    exact entries_changedDeclarations b e
  rw [mediaAt?, blockAt?, hrules]
  cases b.maxWidth? with
  | none => rfl
  | some width => cases rulesAt p b <;> rfl

/-- The blocks of a page, widest first. -/
def blocks (p : Page) : List (Nat × List Rule) :=
  Breakpoint.responsive.filterMap (blockAt? p)

/-- Only the base has no greatest width. -/
theorem mem_responsive_of_maxWidth? {b : Breakpoint} {width : Nat} (h : b.maxWidth? = some width) :
    b ∈ Breakpoint.responsive := by
  cases b with
  | monitor => exact nomatch h
  | _ => decide

/-- Blocks come in descending width. -/
theorem pairwise_blocks (p : Page) : ((blocks p).map Prod.fst).Pairwise (· > ·) := by
  have hwidths {a b : Breakpoint} (hab : b < a) {v w : Nat} (ha : a.maxWidth? = some w)
      (hb : b.maxWidth? = some v) : v < w := by
    cases a <;> cases ha <;> cases b <;> cases hb <;> revert hab <;> decide
  have hdescending : Breakpoint.responsive.Pairwise fun a b => b < a := by decide
  rw [List.pairwise_map, blocks, List.pairwise_filterMap]
  refine hdescending.imp fun {a b} hab x hx y hy => ?_
  exact hwidths hab (blockAt?_eq_some_iff.1 hx).1 (blockAt?_eq_some_iff.1 hy).1

/-- The sheets of an accepted page are read as the rules of its elements and nothing else: the rules
at the base, and a block with the differences for each breakpoint that has any, from wide to narrow.
Neither holds anything empty. -/
theorem read?_stylesheets {key : String} {p : Page} (h : Validation.checkPage key p = .ok ()) :
    read? p.stylesheets.base = some ((baseRules p).map .rule) ∧
    (∀ rule ∈ baseRules p, rule.declarations ≠ []) ∧
    ∃ blocks : List (Nat × List Rule),
      read? p.stylesheets.responsive = some (blocks.map fun block => .media block.1 block.2) ∧
      (blocks.map Prod.fst).Pairwise (· > ·) ∧
      (∀ width rules, (width, rules) ∈ blocks ↔
        ∃ b : Breakpoint, b.maxWidth? = some width ∧ rules = rulesAt p b ∧ rules ≠ []) ∧
      ∀ block ∈ blocks, ∀ rule ∈ block.2, rule.declarations ≠ [] := by
  refine ⟨?_, fun rule => nonempty_of_mem_rulesFor, blocks p, ?_, pairwise_blocks p,
    fun width rules => ?_, ?_⟩
  · rw [read?_base h, rulesOf_eq_rulesFor]
    rfl
  · rw [read?_responsive h, blocks, List.map_filterMap]
    exact congrArg some (List.filterMap_congr fun b _ => mediaAt?_eq_blockAt? p b)
  · rw [blocks, List.mem_filterMap]
    constructor
    · rintro ⟨b, -, hb⟩
      exact ⟨b, blockAt?_eq_some_iff.1 hb⟩
    · rintro ⟨b, hb⟩
      exact ⟨b, mem_responsive_of_maxWidth? hb.1, blockAt?_eq_some_iff.2 hb⟩
  · rintro ⟨width, rules⟩ hblock rule hrule
    obtain ⟨b, -, hb⟩ := List.mem_filterMap.1 hblock
    rw [(blockAt?_eq_some_iff.1 hb).2.1] at hrule
    exact nonempty_of_mem_rulesFor hrule

/-- A text whose name, color and font family hold what ends names, values and rules elsewhere. -/
def slogan : Element :=
  { Element.new "1\x7d\x00 a\x7b;" .text with
    style := { color := some "\tRGB(1, 2,3) ", fontFamily := some "it's /*,:@media" }
    responsive := { tablet := some { color := some "red" } } }

/-- A page with that text. -/
def sloganPage : Page :=
  (Page.new "home" "Home").insert slogan

theorem read?_stylesheets_slogan : Validation.checkPage "home" sloganPage = .ok () ∧
    read? sloganPage.stylesheets.base = some [.rule ⟨"1\x7d\uFFFD a\x7b;",
      [("color", "\tRGB(1, 2,3) "), ("font-family", "\"it's /*,:@media\", sans-serif")]⟩] := by
  have haccepted : Validation.checkPage "home" sloganPage = .ok () := rfl
  exact ⟨haccepted, (read?_stylesheets haccepted).1.trans rfl⟩

end Css

end Sitework
