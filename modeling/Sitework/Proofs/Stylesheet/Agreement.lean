import Mathlib.Data.List.Basic
import Sitework.Proofs.Stylesheet.Written

/-!
# What a page looks like at a width

The rules of an element that apply in viewports of some width, laid over each other, declare what
the element declares at the breakpoint of the width. The one exception is a property that changes
at a wider breakpoint and then goes back to its value at the base: it does not differ from the base,
so no block takes back the change.
-/

namespace Sitework

namespace Breakpoint

/-- The class of a width in pixels. -/
def ofWidth (width : Nat) : Breakpoint :=
  if width ≤ 640 then .smartphone
  else if width ≤ 1024 then .tablet
  else if width ≤ 1440 then .laptop
  else .monitor

/-- A class reaches down to that of a width if it is as wide. -/
theorem contains_ofWidth_iff {b : Breakpoint} {bound : Nat} (h : b.maxWidth? = some bound)
    (width : Nat) : b.contains (ofWidth width) = true ↔ width ≤ bound := by
  rw [contains, decide_eq_true_iff]
  change (ofWidth width).rank ≤ b.rank ↔ width ≤ bound
  unfold ofWidth
  cases b <;> cases h <;> split_ifs <;> simp only [rank] <;> omega

end Breakpoint

namespace Element

variable (e : Element)

/-- What differs from the base at a breakpoint where the element has a layer. -/
def changesAt (b : Breakpoint) : Declarations :=
  if (e.responsive.get b).isSome then Stylesheet.changedDeclarations b e else OrderedMap.empty

/-- The declarations at the base, with the changes of every breakpoint down to one on top. -/
def exportedAt (b : Breakpoint) : Declarations :=
  (Breakpoint.responsive.filter (·.contains b)).foldl
    (fun declarations c => declarations.insertAll (e.changesAt c).entries)
    (Stylesheet.baseDeclarations e)

/-- At a breakpoint a property is as at the base, but it is not at a wider one. -/
def RevertsAt (b : Breakpoint) (property : String) : Prop :=
  (e.declarationsAt b none).get? property = (e.declarationsAt .monitor none).get? property ∧
    ∃ c : Breakpoint, c.contains b = true ∧
      (e.declarationsAt c none).get? property ≠ (e.declarationsAt .monitor none).get? property

variable {e} {b w : Breakpoint}

/-- Without a layer, what is declared is what is declared at the next wider breakpoint. -/
theorem declarationsAt_of_wider (h : b.wider? = some w) (hlayer : e.responsive.get b = none) :
    e.declarationsAt b none = e.declarationsAt w none := by
  rw [declarationsAt_none, declarationsAt_none, resolvedStyle, Cascade.resolve_eq_cover _ _ h,
    hlayer]
  rfl

/-- What is declared at a breakpoint is declared at every one that it reaches down to. -/
theorem isSome_get?_declarationsAt {a : Breakpoint} (hab : a.contains b = true) {property : String}
    (h : ((e.declarationsAt a none).get? property).isSome = true) :
    ((e.declarationsAt b none).get? property).isSome = true := by
  rw [declarationsAt_none] at h ⊢
  cases hname : CssProperty.ofName? property with
  | none =>
    rw [Style.get?_declarations_of_unknown _ hname] at h
    exact absurd h Bool.false_ne_true
  | some d =>
    obtain rfl := CssProperty.name_of_ofName? hname
    rw [Style.get?_declarations] at h ⊢
    have hcovered := Cascade.isCoveredBy_resolve_of_contains e.style e.responsive hab
    exact hcovered.completed.shown.isSome_render? h

/-- At a breakpoint the changes there are put over what is exported at the next wider one. -/
theorem exportedAt_of_wider (h : b.wider? = some w) :
    e.exportedAt b = (e.exportedAt w).insertAll (e.changesAt b).entries := by
  cases b <;> cases h <;> rfl

/-- A layer changes the properties that are not as at the base. -/
theorem get?_changesAt (hlayer : (e.responsive.get b).isSome = true) (property : String) :
    (e.changesAt b).get? property =
      if (e.declarationsAt b none).get? property = (e.declarationsAt .monitor none).get? property
      then none else (e.declarationsAt b none).get? property := by
  rw [changesAt, if_pos hlayer, Stylesheet.changedDeclarations, Declarations.diff,
    OrderedMap.get?_filter, Stylesheet.baseDeclarations]
  cases hb : (e.declarationsAt b none).get? property with
  | none => rw [Option.filter_none, ite_self]
  | some value =>
    by_cases hbase : (e.declarationsAt .monitor none).get? property = some value
    · rw [hbase, if_pos rfl, Option.filter_some_neg (by simp)]
    · rw [if_neg (Ne.symm hbase), Option.filter_some_pos (by simpa using hbase)]

/-- What is exported at a breakpoint is what changes there, on top of the next wider one. -/
theorem get?_exportedAt_of_wider (h : b.wider? = some w) (property : String) :
    (e.exportedAt b).get? property =
      ((e.changesAt b).get? property).or ((e.exportedAt w).get? property) := by
  rw [exportedAt_of_wider h, OrderedMap.get?_insertAll _ (e.changesAt b).nodup]
  rfl

/-- A property that is not as at the base is declared, since one that is declared at the base is
declared at every breakpoint. -/
theorem isSome_get?_of_ne_base {property : String} (h : (e.declarationsAt b none).get? property ≠
    (e.declarationsAt .monitor none).get? property) :
    ((e.declarationsAt b none).get? property).isSome = true := by
  rw [Option.isSome_iff_ne_none]
  intro hnone
  rw [hnone, ne_comm, ← Option.isSome_iff_ne_none] at h
  have hset := isSome_get?_declarationsAt b.monitor_contains h
  rw [hnone] at hset
  exact absurd hset Bool.false_ne_true

/-- Without a layer, nothing more is exported than at the next wider breakpoint. -/
theorem get?_exportedAt_of_no_layer (h : b.wider? = some w) (hlayer : e.responsive.get b = none)
    (property : String) : (e.exportedAt b).get? property = (e.exportedAt w).get? property := by
  have hempty : (e.changesAt b).get? property = none := by
    rw [changesAt, hlayer]
    rfl
  rw [get?_exportedAt_of_wider h, hempty, Option.none_or]

/-- At a breakpoint with a layer, a property that is as at the base is exported as before, and any
other one as it is. -/
theorem get?_exportedAt_of_layer (h : b.wider? = some w)
    (hlayer : (e.responsive.get b).isSome = true) (property : String) :
    (e.exportedAt b).get? property =
      if (e.declarationsAt b none).get? property = (e.declarationsAt .monitor none).get? property
      then (e.exportedAt w).get? property else (e.declarationsAt b none).get? property := by
  rw [get?_exportedAt_of_wider h, get?_changesAt hlayer]
  split
  · rw [Option.none_or]
  · next hne => rw [Option.or_of_isSome (isSome_get?_of_ne_base hne)]

/-- The value at the base is exported exactly if nothing changes on the way to a breakpoint. A value
other than that at the base is exported as it is. -/
theorem get?_exportedAt (e : Element) (b : Breakpoint) (property : String) :
    ((e.exportedAt b).get? property = (e.declarationsAt .monitor none).get? property ↔
      ∀ c : Breakpoint, c.contains b = true →
        (e.declarationsAt c none).get? property = (e.declarationsAt .monitor none).get? property) ∧
    ((e.declarationsAt b none).get? property ≠ (e.declarationsAt .monitor none).get? property →
      (e.exportedAt b).get? property = (e.declarationsAt b none).get? property) := by
  induction b using Breakpoint.widestFirst with
  | base =>
    refine ⟨⟨fun _ c hc => ?_, fun _ => rfl⟩, fun h => absurd rfl h⟩
    cases c with
    | monitor => rfl
    | _ => exact absurd hc (by decide)
  | step b w hw ih =>
    obtain ⟨ihbase, ihother⟩ := ih
    simp only [Breakpoint.contains_iff_of_wider hw, forall_eq_or_imp]
    cases hlayer : e.responsive.get b with
    | none =>
      rw [get?_exportedAt_of_no_layer hw hlayer, declarationsAt_of_wider hw hlayer]
      refine ⟨ihbase.trans ⟨fun h => ⟨h w ?_, h⟩, fun h => h.2⟩, ihother⟩
      cases w <;> decide
    | some layer =>
      rw [get?_exportedAt_of_layer hw (Option.isSome_of_eq_some hlayer)]
      split
      · next hsame =>
        exact ⟨ihbase.trans ⟨fun h => ⟨hsame, h⟩, fun h => h.2⟩, fun h => absurd hsame h⟩
      · next hne => exact ⟨⟨fun h => absurd h hne, fun h => absurd h.1 hne⟩, fun _ => rfl⟩

/-- The overlaid rules declare what the element declares, unless it reverts a property. -/
theorem get?_exportedAt_iff (e : Element) (b : Breakpoint) (property : String) :
    (e.exportedAt b).get? property = (e.declarationsAt b none).get? property ↔
      ¬e.RevertsAt b property := by
  obtain ⟨hbase, hother⟩ := get?_exportedAt e b property
  rw [RevertsAt]
  by_cases hsame : (e.declarationsAt b none).get? property =
      (e.declarationsAt .monitor none).get? property
  · rw [hsame, hbase]
    simp
  · exact ⟨fun _ h => hsame h.1, fun _ => hother hsame⟩

end Element

namespace Css

/-- What a rule declares for a name. -/
def Rule.declarationsFor (name : String) (rule : Rule) : List (String × String) :=
  if rule.name = name then rule.declarations else []

/-- What a statement declares for a name in viewports of a width. -/
def Statement.declarationsFor (name : String) (width : Nat) :
    Statement → List (String × String)
  | .rule r => r.declarationsFor name
  | .media bound rules => if width ≤ bound then rules.flatMap (Rule.declarationsFor name) else []

/-- The declarations for a name in viewports of a width. Of a property that is declared repeatedly,
the last value counts. -/
def overlay (name : String) (width : Nat) (statements : List Statement) : Declarations :=
  OrderedMap.ofList (statements.flatMap (Statement.declarationsFor name width))

/-- The names under which two elements are selected differ. -/
def Apart (e other : Element) : Prop :=
  Selector.selected other.id ≠ Selector.selected e.id

variable {e : Element} {es before after : List Element}
  {declarationsOf : Element → Declarations}

/-- Rules for elements of other names declare nothing for an element. -/
theorem flatMap_rulesOf_of_apart (h : ∀ other ∈ es, Apart e other) :
    (rulesOf declarationsOf es).flatMap (Rule.declarationsFor (Selector.selected e.id)) = [] := by
  rw [List.flatMap_eq_nil_iff]
  intro rule hrule
  obtain ⟨other, hother, hread⟩ := List.mem_filterMap.1 hrule
  simp only [Option.ite_none_left_eq_some, Option.some.injEq] at hread
  obtain ⟨-, rfl⟩ := hread
  exact if_neg (h other hother)

/-- Among rules for elements of different names, an element has its own declarations. -/
theorem flatMap_rulesOf (hbefore : ∀ other ∈ before, Apart e other)
    (hafter : ∀ other ∈ after, Apart e other) :
    (rulesOf declarationsOf (before ++ e :: after)).flatMap
        (Rule.declarationsFor (Selector.selected e.id)) = (declarationsOf e).entries := by
  have hown : (rulesOf declarationsOf [e]).flatMap (Rule.declarationsFor (Selector.selected e.id)) =
      (declarationsOf e).entries := by
    rw [rulesOf, List.filterMap_cons, List.filterMap_nil]
    by_cases hempty : (declarationsOf e).isEmpty = true
    · rw [if_pos hempty]
      exact (List.isEmpty_iff.1 hempty).symm
    · rw [if_neg hempty, List.flatMap_singleton, Rule.declarationsFor, if_pos rfl]
  rw [rulesOf, List.append_cons, List.filterMap_append, List.filterMap_append, List.flatMap_append,
    List.flatMap_append]
  change (rulesOf declarationsOf before).flatMap _ ++ (rulesOf declarationsOf [e]).flatMap _ ++
    (rulesOf declarationsOf after).flatMap _ = _
  rw [flatMap_rulesOf_of_apart hbefore, flatMap_rulesOf_of_apart hafter, hown, List.nil_append,
    List.append_nil]

/-- A block declares for an element what changes at its breakpoint. -/
theorem flatMap_mediaAt? (hbefore : ∀ other ∈ before, Apart e other)
    (hafter : ∀ other ∈ after, Apart e other) (width : Nat) {b : Breakpoint} {bound : Nat}
    (hbound : b.maxWidth? = some bound) :
    (mediaAt? (before ++ e :: after) b).toList.flatMap
        (Statement.declarationsFor (Selector.selected e.id) width) =
      if width ≤ bound then (e.changesAt b).entries else [] := by
  let layered (e : Element) : Bool := (e.responsive.get b).isSome
  have hrules : (rulesOf (Stylesheet.changedDeclarations b)
      ((before ++ e :: after).filter layered)).flatMap
        (Rule.declarationsFor (Selector.selected e.id)) = (e.changesAt b).entries := by
    have hfirst : ∀ other ∈ before.filter layered, Apart e other := fun other hother =>
      hbefore other (List.mem_of_mem_filter hother)
    have hlast : ∀ other ∈ after.filter layered, Apart e other := fun other hother =>
      hafter other (List.mem_of_mem_filter hother)
    rw [List.filter_append, List.filter_cons, Element.changesAt]
    split
    · exact flatMap_rulesOf hfirst hlast
    · exact flatMap_rulesOf_of_apart (List.forall_mem_append.2 ⟨hfirst, hlast⟩)
  rw [mediaAt?, hbound, Option.bind_some, ← hrules]
  cases rulesOf (Stylesheet.changedDeclarations b) ((before ++ e :: after).filter layered) with
  | nil => exact (ite_self []).symm
  | cons rule rules => exact List.flatMap_singleton _ _

/-- The rules and blocks of a page, laid over each other, declare what is exported. -/
theorem overlay_eq_exportedAt (hbefore : ∀ other ∈ before, Apart e other)
    (hafter : ∀ other ∈ after, Apart e other) (width : Nat) :
    overlay (Selector.selected e.id) width
        ((rulesOf Stylesheet.baseDeclarations (before ++ e :: after)).map .rule ++
          Breakpoint.responsive.filterMap (mediaAt? (before ++ e :: after))) =
      e.exportedAt (.ofWidth width) := by
  have hbase : ((rulesOf Stylesheet.baseDeclarations (before ++ e :: after)).map
      Statement.rule).flatMap (Statement.declarationsFor (Selector.selected e.id) width) =
      (Stylesheet.baseDeclarations e).entries := by
    rw [List.flatMap_map]
    exact flatMap_rulesOf hbefore hafter
  have hblock : ∀ b ∈ Breakpoint.responsive, (mediaAt? (before ++ e :: after) b).toList.flatMap
      (Statement.declarationsFor (Selector.selected e.id) width) =
        if b.contains (.ofWidth width) then (e.changesAt b).entries else [] := by
    intro b hb
    obtain ⟨bound, hbound⟩ : ∃ bound, b.maxWidth? = some bound := by
      cases b with
      | monitor => exact absurd hb (by decide)
      | _ => exact ⟨_, rfl⟩
    rw [flatMap_mediaAt? hbefore hafter width hbound]
    simp only [Breakpoint.contains_ofWidth_iff hbound]
  have hblocks : (Breakpoint.responsive.filterMap (mediaAt? (before ++ e :: after))).flatMap
      (Statement.declarationsFor (Selector.selected e.id) width) =
      Breakpoint.responsive.flatMap fun b =>
        if b.contains (.ofWidth width) then (e.changesAt b).entries else [] := by
    rw [List.filterMap_eq_flatMap_toList, List.flatMap_assoc]
    exact List.flatMap_congr hblock
  rw [overlay, List.flatMap_append, hbase, hblocks, OrderedMap.ofList, OrderedMap.insertAll_append,
    OrderedMap.insertAll_flatMap, Element.exportedAt, List.foldl_filter]
  change List.foldl _ (OrderedMap.ofList (Stylesheet.baseDeclarations e).entries) _ = _
  rw [OrderedMap.ofList_entries]
  congr
  funext declarations b
  split <;> rfl

end Css

namespace PageStylesheets

/-- What the stylesheets declare for a name in viewports of a width, if they can be read. -/
def declarationsAt? (sheets : PageStylesheets) (name : String) (width : Nat) :
    Option Declarations := do
  let base ← Css.read? sheets.base
  let responsive ← Css.read? sheets.responsive
  return Css.overlay name width (base ++ responsive)

/-- In viewports of any width, the stylesheets of an accepted page declare for an element what it
declares at the breakpoint of the width, except for the properties that it reverts there. No other
element may be selected by the same name. -/
theorem exists_declarationsAt?_iff_not_revertsAt {key : String} {p : Page}
    (h : Validation.checkPage key p = .ok ()) {e : Element} (he : e ∈ p.elements.values)
    (hname : ∀ other ∈ p.elements.values,
      Selector.selected other.id = Selector.selected e.id → other.id = e.id) (width : Nat) :
    ∃ declared, p.stylesheets.declarationsAt? (Selector.selected e.id) width = some declared ∧
      ∀ property, declared.get? property =
          (e.declarationsAt (.ofWidth width) none).get? property ↔
        ¬e.RevertsAt (.ofWidth width) property := by
  obtain ⟨before, after, hsplit⟩ := List.append_of_mem he
  have hids := Validation.nodup_ids_of_checkPage h
  rw [hsplit] at hname
  rw [hsplit, List.map_append, List.map_cons, List.nodup_append, List.nodup_cons] at hids
  have hbefore : ∀ other ∈ before, Css.Apart e other := by
    intro other hother hsame
    have hid := hname other (List.mem_append_left _ hother) hsame
    exact hids.2.2 _ (List.mem_map.2 ⟨other, hother, rfl⟩) _ List.mem_cons_self hid
  have hafter : ∀ other ∈ after, Css.Apart e other := by
    intro other hother hsame
    have hid := hname other (List.mem_append_right _ (List.mem_cons_of_mem _ hother)) hsame
    exact hids.2.1.1 (List.mem_map.2 ⟨other, hother, hid⟩)
  refine ⟨e.exportedAt (.ofWidth width), ?_, e.get?_exportedAt_iff _⟩
  rw [declarationsAt?, Css.read?_base h, Css.read?_responsive h, hsplit,
    ← Css.overlay_eq_exportedAt hbefore hafter]
  rfl

/-- A red text that is blue on laptops only. -/
def note : Element :=
  { Element.new "note" .text with
    style := { color := some "red" }
    responsive :=
      { laptop := some { color := some "blue" }, tablet := some { color := some "red" } } }

/-- A page with that text. -/
def notePage : Page :=
  (Page.new "home" "Home").insert note

/-- On tablets, the text is red as at the base and on laptops it is not. -/
theorem revertsAt_note : note.RevertsAt .tablet "color" := by
  constructor
  · decide
  · exact ⟨.laptop, rfl, by decide⟩

theorem exists_declarationsAt?_note : Validation.checkPage "home" notePage = .ok () ∧
    ∃ declared, notePage.stylesheets.declarationsAt? "note" 800 = some declared ∧
      declared.get? "color" ≠ (note.declarationsAt (.ofWidth 800) none).get? "color" := by
  have haccepted : Validation.checkPage "home" notePage = .ok () := rfl
  obtain ⟨declared, hdeclared, hagree⟩ := exists_declarationsAt?_iff_not_revertsAt haccepted
    (e := note) List.mem_cons_self (List.forall_mem_singleton.2 fun _ => rfl) 800
  exact ⟨haccepted, declared, hdeclared, fun hsame => (hagree "color").1 hsame revertsAt_note⟩

end PageStylesheets

end Sitework
