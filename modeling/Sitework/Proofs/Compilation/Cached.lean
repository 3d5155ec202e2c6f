import Sitework.Proofs.Compilation.Assembled
import Sitework.Proofs.Style.LastShown

/-!
# Compiling again from what was last rendered

A tree hands the declarations of its elements on to the next one. There each element has the
declarations of its style in force, completed from those. With different names of the elements, it
is the element's own declarations that are handed on. So from one breakpoint to another, an element
is declared as in a tree of its own exactly if its style there borrows nothing of what was shown;
which is the case whenever the first breakpoint is the second or a wider one.
-/

namespace Sitework

/-- The declarations of the node that is found for an element. -/
def MarkupTree.declarationsOf? (t : MarkupTree) (id : String) : Option Declarations :=
  ((t.find? id).bind t.get?).map (·.declarations)

namespace Compilation

variable {cache : DeclarationCache} {b : Breakpoint} {es : List Element} {t : MarkupTree}
  {e : Element}

namespace IsComplete

/-- What a tree hands on under a name are the declarations of the node of that name. -/
theorem get?_declarationCache_of_get? (h : IsComplete cache b es t) {i : Nat} {n : MarkupNode}
    {id : String} (hget : t.get? i = some n) (hid : n.elementId? = some id) :
    t.declarationCache.get? id = some n.declarations := by
  have hi : i ∈ t.preOrder :=
    h.reached.mem_iff.2 (List.mem_range.2 (MarkupTree.lt_size_of_get? hget))
  have hnames : (t.nodes.filterMap (·.elementId?)).Nodup :=
    h.names.nodup_iff.2 (Names.nodup_distinct _)
  have hkeys : ((t.nodes.filterMap fun n => n.elementId?.map (·, n.declarations)).map
      Prod.fst).Nodup := by
    rw [List.map_filterMap]
    simpa [Option.map_map, Function.comp_def] using hnames
  rw [OrderedMap.get?_eq_some_iff, MarkupTree.declarationCache, OrderedMap.entries_ofList hkeys,
    List.mem_filterMap]
  exact ⟨n, List.mem_filterMap.2 ⟨i, hi, hget⟩, by rw [hid]; rfl⟩

variable (h : IsComplete cache b es t) (hids : (es.map (·.id)).Nodup) (he : e ∈ es)
include h hids he

/-- An element is declared as its style in force, completed from what was handed on for it. -/
theorem declarationsOf?_eq :
    t.declarationsOf? e.id = some (e.declarationsAt b (cache.get? e.id)) := by
  obtain ⟨i, -, hfind, hget⟩ := h.exists_node hids he
  rw [MarkupTree.declarationsOf?, hfind, Option.bind_some, hget]
  rfl

/-- What a tree hands on for an element are its declarations there. -/
theorem get?_declarationCache :
    t.declarationCache.get? e.id = some (e.declarationsAt b (cache.get? e.id)) := by
  obtain ⟨i, -, -, hget⟩ := h.exists_node hids he
  exact h.get?_declarationCache_of_get? hget rfl

end IsComplete

/-- Without anything handed on, an element has its own declarations. -/
theorem declarationsOf?_compile (hids : (es.map (·.id)).Nodup) (b : Breakpoint) (he : e ∈ es) :
    (compile es b).declarationsOf? e.id = some (e.declarationsAt b none) :=
  (isComplete_compileWith OrderedMap.empty es b).declarationsOf?_eq hids he

/-- From one breakpoint to another, an element is completed from its own declarations. -/
theorem declarationsOf?_compileWith (hids : (es.map (·.id)).Nodup) (b₀ b : Breakpoint)
    (he : e ∈ es) :
    (compileWith (compile es b₀).declarationCache es b).declarationsOf? e.id =
      some (e.declarationsAt b (some (e.declarationsAt b₀ none))) := by
  have hlast : (compile es b₀).declarationCache.get? e.id = some (e.declarationsAt b₀ none) :=
    (isComplete_compileWith OrderedMap.empty es b₀).get?_declarationCache hids he
  rw [(isComplete_compileWith _ es b).declarationsOf?_eq hids he, hlast]

/-- A style in force borrows nothing of what was shown at the same breakpoint or a wider one. -/
theorem not_borrows_of_contains (e : Element) {b₀ b : Breakpoint} (h : b₀.contains b = true)
    (p : Property) :
    ¬ (e.resolvedStyle b).Borrows (Style.ofDeclarations (e.declarationsAt b₀ none)) p := by
  rw [Element.declarationsAt_none]
  exact Style.not_borrows_of_isCoveredBy
    (Cascade.isCoveredBy_resolve_of_contains e.style e.responsive h) p

/-- From one breakpoint to another, an element is declared as in a tree of its own exactly if its
style there borrows nothing of what was shown; as always when the first breakpoint is the second or
a wider one. -/
theorem exists_declarationsOf?_compileWith (hids : (es.map (·.id)).Nodup) (b₀ b : Breakpoint)
    (he : e ∈ es) : ∃ cached fresh,
      (compileWith (compile es b₀).declarationCache es b).declarationsOf? e.id = some cached ∧
      (compile es b).declarationsOf? e.id = some fresh ∧
      (cached = fresh ↔ ∀ p, ¬ (e.resolvedStyle b).Borrows
        (Style.ofDeclarations (e.declarationsAt b₀ none)) p) ∧
      (b₀.contains b = true → cached = fresh) := by
  have hiff : e.declarationsAt b (some (e.declarationsAt b₀ none)) = e.declarationsAt b none ↔ _ :=
    Style.declarations_complete_eq_iff
  exact ⟨_, _, declarationsOf?_compileWith hids b₀ b he, declarationsOf?_compile hids b he, hiff,
    fun h => hiff.2 (not_borrows_of_contains e h)⟩

/-- A bar whose items are centered, and which is a flexible box on tablets. -/
def toolbar : Element :=
  { Element.new "toolbar" .container with
    style := { alignItems := some .center }
    responsive := { tablet := some { display := some .flex } } }

theorem exists_declarationsOf?_toolbar : ([toolbar].map (·.id)).Nodup ∧ toolbar ∈ [toolbar] ∧
    (∃ cached fresh, (compileWith (compile [toolbar] .tablet).declarationCache [toolbar]
        .smartphone).declarationsOf? toolbar.id = some cached ∧
      (compile [toolbar] .smartphone).declarationsOf? toolbar.id = some fresh ∧
      cached = fresh) ∧
    ∃ cached fresh, (compileWith (compile [toolbar] .tablet).declarationCache [toolbar]
        .monitor).declarationsOf? toolbar.id = some cached ∧
      (compile [toolbar] .monitor).declarationsOf? toolbar.id = some fresh ∧
      cached ≠ fresh := by
  have hids : ([toolbar].map (·.id)).Nodup := by decide
  have hmem : toolbar ∈ [toolbar] := List.mem_singleton_self toolbar
  have hborrows : (toolbar.resolvedStyle .monitor).Borrows
      (Style.ofDeclarations (toolbar.declarationsAt .tablet none)) .display :=
    ⟨rfl, .flex, by decide, by decide, .flex, by decide +kernel, nofun⟩
  obtain ⟨narrow, narrow', hnarrow, hnarrow', -, hsame⟩ :=
    exists_declarationsOf?_compileWith hids .tablet .smartphone hmem
  obtain ⟨wide, wide', hwide, hwide', hiff, -⟩ :=
    exists_declarationsOf?_compileWith hids .tablet .monitor hmem
  exact ⟨hids, hmem, ⟨narrow, narrow', hnarrow, hnarrow', hsame (by decide)⟩,
    wide, wide', hwide, hwide', fun h => hiff.1 h .display hborrows⟩

/-- Once it was shown on a tablet, the bar stays a flexible box at the base. -/
theorem declarationsOf?_toolbar_ne : ([toolbar].map (·.id)).Nodup ∧
    (compileWith (compile [toolbar] .tablet).declarationCache [toolbar]
      .monitor).declarationsOf? toolbar.id ≠
        (compile [toolbar] .monitor).declarationsOf? toolbar.id := by
  have hids : ([toolbar].map (·.id)).Nodup := by decide
  have hmem : toolbar ∈ [toolbar] := List.mem_singleton_self toolbar
  refine ⟨hids, ?_⟩
  rw [declarationsOf?_compileWith hids .tablet .monitor hmem,
    declarationsOf?_compile hids .monitor hmem]
  decide +kernel

end Compilation

end Sitework
