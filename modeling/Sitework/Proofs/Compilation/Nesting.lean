import Mathlib.Data.List.Nodup
import Sitework.Compilation
import Sitework.Proofs.Element

/-!
# How elements are nested

The order in which elements are put into a tree is that of a depth-first walk. The walk is stated
as a relation between the elements that wait and the forest that they become, without any tree: an
element that was reached before is passed over, and after any other one come its children. Every
walk ends, reaches each name once, and leads to a consistently nested forest, and the flat list of
such a forest is walked to that forest again.
-/

namespace Sitework

namespace Compilation

open Element

/-- An element belongs below one of a kind that may have children. -/
theorem exists_container_of_parentOf? {es : List Element} {c : Element} {id : String}
    (h : parentOf? es c = some id) :
    ∃ e ∈ es, e.id = id ∧ e.kind.acceptsChildren = true := by
  unfold parentOf? at h
  split at h
  · exact absurd h.symm (Option.some_ne_none id)
  · simp only [Option.filter_eq_some_iff, Bool.and_eq_true, isContainer, List.any_eq_true,
      beq_iff_eq] at h
    exact h.2.2

/-- The children of an element are those that belong below one of its name. -/
theorem mem_childrenOf {es : List Element} {c : Element} {id : String} :
    c ∈ childrenOf es id ↔ c ∈ es ∧ parentOf? es c = some id := by
  rw [childrenOf, List.mem_filter, beq_iff_eq]

/-- The elements that wait below a parent become a forest there, with the names that are not yet
built before and after. -/
inductive Nests (es : List Element) :
    Option String → List String → List Element → List Element → List String → Prop
  | done (parent : Option String) (unbuilt : List String) : Nests es parent unbuilt [] [] unbuilt
  | skip {parent : Option String} {unbuilt left : List String} {e : Element}
    {waiting forest : List Element} :
    e.id ∉ unbuilt → Nests es parent unbuilt waiting forest left →
    Nests es parent unbuilt (e :: waiting) forest left
  | nest {parent : Option String} {unbuilt between left : List String} {e : Element}
    {children waiting forest : List Element} :
    e.id ∈ unbuilt →
    Nests es (some e.id) (Names.without unbuilt e.id) (childrenOf es e.id) children between →
    Nests es parent between waiting forest left →
    Nests es parent unbuilt (e :: waiting)
      ({ e with parentId := parent, children := children } :: forest) left

/-- Every walk ends. -/
theorem exists_nests (es : List Element) (parent : Option String) (unbuilt : List String)
    (waiting : List Element) :
    ∃ forest left, Nests es parent unbuilt waiting forest left ∧ left.length ≤ unbuilt.length := by
  match waiting with
  | [] => exact ⟨[], unbuilt, .done parent unbuilt, Nat.le_refl _⟩
  | e :: waiting =>
    by_cases h : e.id ∈ unbuilt
    · have hshorter := Names.length_without_lt h
      obtain ⟨children, between, hchildren, hbetween⟩ :=
        exists_nests es (some e.id) (Names.without unbuilt e.id) (childrenOf es e.id)
      obtain ⟨forest, left, hforest, hleft⟩ := exists_nests es parent between waiting
      exact ⟨_, left, .nest h hchildren hforest, by omega⟩
    · obtain ⟨forest, left, hforest, hleft⟩ := exists_nests es parent unbuilt waiting
      exact ⟨forest, left, .skip h hforest, hleft⟩
termination_by (unbuilt.length, waiting.length)
decreasing_by
  · exact Prod.Lex.left _ _ hshorter
  · exact Prod.Lex.left _ _ (by omega)
  · exact Prod.Lex.right _ (Nat.lt_succ_self _)

/-- What is left after an element, what is in it and what follows it. -/
private theorem filter_not_mem_names {e : Element} (unbuilt : List String) (rest : List Element) :
    ((Names.without unbuilt e.id).filter (· ∉ names e.children)).filter (· ∉ names rest) =
      unbuilt.filter (· ∉ names (e :: rest)) := by
  simp only [Names.without, names_cons, List.mem_cons, List.mem_append, not_or, List.filter_filter]
  refine List.filter_congr fun id _ => ?_
  simp only [ne_eq, Bool.decide_and, decide_not]
  ac_rfl

namespace Nests

variable {es waiting forest : List Element} {parent : Option String} {unbuilt left : List String}

/-- A walk may go on with more elements. -/
theorem append (h : Nests es parent unbuilt waiting forest left) {waiting' forest' : List Element}
    {left' : List String} (h' : Nests es parent left waiting' forest' left') :
    Nests es parent unbuilt (waiting ++ waiting') (forest ++ forest') left' := by
  induction h with
  | done parent unbuilt => exact h'
  | skip hid _ ih => exact .skip hid (ih h')
  | nest hid hchildren _ _ ih => exact .nest hid hchildren (ih h')

/-- Elements whose names are all built are passed over. -/
theorem of_forall_not_mem (h : ∀ e ∈ waiting, e.id ∉ unbuilt) :
    Nests es parent unbuilt waiting [] unbuilt := by
  induction waiting with
  | nil => exact .done parent unbuilt
  | cons e waiting ih =>
    rw [List.forall_mem_cons] at h
    exact .skip h.1 (ih h.2)

/-- A walk builds the names of its forest, each once, and no others. -/
theorem names_forest (h : Nests es parent unbuilt waiting forest left) :
    (names forest).Nodup ∧ (∀ id ∈ names forest, id ∈ unbuilt) ∧
      left = unbuilt.filter (· ∉ names forest) := by
  induction h with
  | done parent unbuilt => exact ⟨List.nodup_nil, nofun, by simp⟩
  | skip _ _ ih => exact ih
  | @nest parent unbuilt between left e children waiting forest hid _ _ ihchildren ihforest =>
    obtain ⟨hnodup, hmem, rfl⟩ := ihchildren
    obtain ⟨hnodup', hmem', rfl⟩ := ihforest
    simp only [Names.mem_without, List.mem_filter, decide_eq_true_eq] at hmem hmem'
    rw [nodup_names_cons]
    refine ⟨⟨?_, ?_, hnodup, hnodup', ?_⟩, ?_, ?_⟩
    · exact fun h => (hmem _ h).2 rfl
    · exact fun h => (hmem' _ h).1.2 rfl
    · exact fun id hchild hrest => (hmem' id hrest).2 hchild
    · intro id hmember
      rw [mem_names_cons] at hmember
      rcases hmember with rfl | hmember | hmember
      · exact hid
      · exact (hmem id hmember).1
      · exact (hmem' id hmember).1.1
    · exact filter_not_mem_names (e := { e with parentId := parent, children := children })
        unbuilt forest

/-- The names that are left are those that were not built. -/
theorem mem_left_iff (h : Nests es parent unbuilt waiting forest left) {id : String} :
    id ∈ left ↔ id ∈ unbuilt ∧ id ∉ names forest := by
  rw [h.names_forest.2.2, List.mem_filter, decide_eq_true_eq]

/-- After a walk no name that waited is left. -/
theorem not_mem_left (h : Nests es parent unbuilt waiting forest left) :
    ∀ e ∈ waiting, e.id ∉ left := by
  induction h with
  | done parent unbuilt => exact nofun
  | @skip parent unbuilt left e waiting forest hid hrest ih =>
    exact List.forall_mem_cons.2 ⟨fun h => hid (hrest.mem_left_iff.1 h).1, ih⟩
  | @nest parent unbuilt between left e children waiting forest hid hchildren hrest _ ih =>
    refine List.forall_mem_cons.2 ⟨fun h => ?_, ih⟩
    have hbetween := (hrest.mem_left_iff.1 h).1
    exact (Names.mem_without.1 (hchildren.mem_left_iff.1 hbetween).1).2 rfl

/-- If all elements are to be built and none is left, then no name is. -/
theorem left_eq_nil (h : Nests es parent (es.map (·.id)) waiting forest left)
    (hall : ∀ e ∈ es, e.id ∉ left) : left = [] := by
  refine List.eq_nil_iff_forall_not_mem.2 fun id hid => ?_
  obtain ⟨e, he, rfl⟩ := List.mem_map.1 (h.mem_left_iff.1 hid).1
  exact hall e he hid

/-- Up to its parent, each element of the forest is one that waited, or one that belongs below
another element. -/
theorem exists_origin (h : Nests es parent unbuilt waiting forest left) {y : Element}
    (hy : y ∈ flattenAll forest) : ∃ e own, y = { e with parentId := own, children := [] } ∧
      (e ∈ waiting ∧ own = parent ∨ ∃ id, e ∈ childrenOf es id ∧ own = some id) := by
  induction h with
  | done parent unbuilt => exact absurd hy List.not_mem_nil
  | skip _ _ ih =>
    obtain ⟨x, own, hx, horigin⟩ := ih hy
    exact ⟨x, own, hx, horigin.imp_left (And.imp_left (List.mem_cons_of_mem _))⟩
  | @nest parent unbuilt between left e children waiting forest _ _ _ ihchildren ihforest =>
    rw [flattenAll_cons, List.mem_cons, List.mem_append] at hy
    rcases hy with rfl | hy | hy
    · exact ⟨e, parent, rfl, .inl ⟨List.mem_cons_self, rfl⟩⟩
    · obtain ⟨x, own, hx, horigin⟩ := ihchildren hy
      exact ⟨x, own, hx, .inr (horigin.elim (fun h => ⟨e.id, h⟩) id)⟩
    · obtain ⟨x, own, hx, horigin⟩ := ihforest hy
      exact ⟨x, own, hx, horigin.imp_left (And.imp_left (List.mem_cons_of_mem _))⟩

/-- Up to its parent, each element of the forest is one of the elements. -/
theorem exists_of_mem (h : Nests es parent unbuilt waiting forest left)
    (hwaiting : ∀ e ∈ waiting, e ∈ es) {y : Element} (hy : y ∈ flattenAll forest) :
    ∃ e ∈ es, ∃ parent, y = { e with parentId := parent, children := [] } := by
  obtain ⟨e, own, hown, ⟨he, -⟩ | ⟨id, he, -⟩⟩ := h.exists_origin hy
  · exact ⟨e, hwaiting e he, own, hown⟩
  · exact ⟨e, (mem_childrenOf.1 he).1, own, hown⟩

/-- The walk from elements below their parent leads to a consistently nested forest, if the names
are different. -/
theorem isNested (h : Nests es parent unbuilt waiting forest left)
    (hnodup : (es.map (·.id)).Nodup) (hwaiting : ∀ e ∈ waiting, e ∈ es)
    (hparent : ∀ id, parent = some id → ∀ e ∈ waiting, parentOf? es e = some id) :
    IsNested parent forest := by
  induction h with
  | done parent unbuilt => exact .nil parent
  | skip _ _ ih =>
    exact ih (fun e he => hwaiting e (List.mem_cons_of_mem _ he))
      fun id hid e he => hparent id hid e (List.mem_cons_of_mem _ he)
  | @nest parent unbuilt between left e children waiting forest _ hchildren _ ihchildren ihforest =>
    have hbelow : ∀ c ∈ childrenOf es e.id, c ∈ es ∧ parentOf? es c = some e.id :=
      fun c hc => mem_childrenOf.1 hc
    refine .cons rfl ?_ ?_ (ihchildren (fun c hc => (hbelow c hc).1) ?_)
      (ihforest (fun e he => hwaiting e (List.mem_cons_of_mem _ he))
        fun id hid e he => hparent id hid e (List.mem_cons_of_mem _ he))
    · intro hsection
      rw [Option.eq_none_iff_forall_ne_some]
      intro id hid
      have hnamed := hparent id hid e List.mem_cons_self
      rw [parentOf?, show e.isSection = true from hsection, if_pos rfl] at hnamed
      exact absurd hnamed.symm (Option.some_ne_none id)
    · intro hsome
      -- what is nested names the element as a kind that may have children
      obtain ⟨c, hc⟩ : ∃ c, c ∈ childrenOf es e.id := by
        by_contra hnone
        have hempty : childrenOf es e.id = [] :=
          List.eq_nil_iff_forall_not_mem.2 fun c hc => hnone ⟨c, hc⟩
        rw [hempty] at hchildren
        cases hchildren
        exact hsome rfl
      obtain ⟨e', he', hid, haccepts⟩ := exists_container_of_parentOf? (hbelow c hc).2
      have hsame : e' = e :=
        List.inj_on_of_nodup_map hnodup he' (hwaiting e List.mem_cons_self) hid
      exact hsame ▸ haccepts
    · rintro id hid c hc
      rw [← hid]
      exact (hbelow c hc).2

end Nests

/-- A consistently nested forest of different names, below a parent outside of it, in which the
children of each element are those that name it. -/
structure IsRecorded (es : List Element) (parent : Option String) (forest : List Element) :
    Prop where
  nested : IsNested parent forest
  nodup : (names forest).Nodup
  parent_ne : ∀ id ∈ names forest, parent ≠ some id
  childrenOf_eq : ∀ id ∈ names forest,
    childrenOf es id = (flattenAll forest).filter (·.parentId == some id)

namespace IsRecorded

variable {es rest : List Element} {parent : Option String} {e : Element}

/-- The children that are recorded for the first element are its own, each without its children. -/
theorem childrenOf_first (h : IsRecorded es parent (e :: rest)) :
    childrenOf es e.id = e.children.map bare := by
  rw [h.childrenOf_eq _ (mem_names_cons.2 (.inl rfl)),
    h.nested.filter_parentId_first h.parent_ne h.nodup]

/-- What is nested in the first element is such a forest below it. -/
theorem inner (h : IsRecorded es parent (e :: rest)) : IsRecorded es (some e.id) e.children := by
  obtain ⟨hself, -, hnodup, -⟩ := nodup_names_cons.1 h.nodup
  refine ⟨?_, hnodup, ?_, ?_⟩
  · cases h.nested with
    | cons _ _ _ hinner _ => exact hinner
  · intro id hid heq
    obtain rfl := Option.some.inj heq
    exact hself hid
  · intro id hid
    rw [h.childrenOf_eq id (mem_names_cons.2 (.inr (.inl hid))),
      h.nested.filter_parentId_inner h.parent_ne h.nodup hid]

/-- The others are such a forest below the same parent. -/
theorem tail (h : IsRecorded es parent (e :: rest)) : IsRecorded es parent rest := by
  obtain ⟨-, -, -, hnodup, -⟩ := nodup_names_cons.1 h.nodup
  refine ⟨?_, hnodup, fun id hid => h.parent_ne id (mem_names_cons.2 (.inr (.inr hid))), ?_⟩
  · cases h.nested with
    | cons _ _ _ _ hrest => exact hrest
  · intro id hid
    rw [h.childrenOf_eq id (mem_names_cons.2 (.inr (.inr hid))),
      h.nested.filter_parentId_rest h.parent_ne h.nodup hid]

/-- Such a forest is walked to again from its outermost elements. -/
theorem nests {forest : List Element} (h : IsRecorded es parent forest) {unbuilt : List String}
    (hunbuilt : ∀ id ∈ names forest, id ∈ unbuilt) :
    Nests es parent unbuilt (forest.map bare) forest (unbuilt.filter (· ∉ names forest)) := by
  have hnested := h.nested
  induction hnested generalizing unbuilt with
  | nil parent =>
    have hall : unbuilt.filter (· ∉ names []) = unbuilt := by simp
    rw [hall]
    exact .done parent unbuilt
  | @cons parent e rest hown _ _ _ _ ihinner ihrest =>
    obtain ⟨hself, hlater, -, -, hdisjoint⟩ := nodup_names_cons.1 h.nodup
    have hunbuiltInner : ∀ id ∈ names e.children, id ∈ Names.without unbuilt e.id :=
      fun id hid => Names.mem_without.2
        ⟨hunbuilt id (mem_names_cons.2 (.inr (.inl hid))), ne_of_mem_of_not_mem hid hself⟩
    have hunbuiltRest : ∀ id ∈ names rest,
        id ∈ (Names.without unbuilt e.id).filter (· ∉ names e.children) := by
      intro id hid
      rw [List.mem_filter, Names.mem_without, decide_eq_true_eq]
      exact ⟨⟨hunbuilt id (mem_names_cons.2 (.inr (.inr hid))), ne_of_mem_of_not_mem hid hlater⟩,
        fun hmem => hdisjoint id hmem hid⟩
    have hinner := ihinner h.inner hunbuiltInner
    rw [← h.childrenOf_first] at hinner
    have hwalk := Nests.nest (e := e.bare) (hunbuilt _ (mem_names_cons.2 (.inl rfl))) hinner
      (ihrest h.tail hunbuiltRest)
    have hback : { e.bare with parentId := parent, children := e.children } = e := by
      rw [← hown, e.bare_withChildren]
    rw [hback, filter_not_mem_names] at hwalk
    exact hwalk

end IsRecorded

/-- Elements become a forest below the root: first those that belong there, each with what is below
it, and then any that were not reached. -/
def Grows (es forest : List Element) : Prop :=
  Nests es none (es.map (·.id)) ((es.filter fun e => (parentOf? es e).isNone) ++ es) forest []

/-- All elements become a forest. -/
theorem exists_grows (es : List Element) : ∃ forest, Grows es forest := by
  obtain ⟨forest, left, h, -⟩ := exists_nests es none (es.map (·.id))
    ((es.filter fun e => (parentOf? es e).isNone) ++ es)
  have hleft := h.left_eq_nil fun e he => h.not_mem_left e (List.mem_append_right _ he)
  rw [hleft] at h
  exact ⟨forest, h⟩

namespace Grows

variable {es forest : List Element}

/-- The names of a grown forest are distinct. -/
theorem nodup_names (h : Grows es forest) : (names forest).Nodup :=
  h.names_forest.1

/-- The names of the forest are those of the elements. -/
theorem mem_names_iff (h : Grows es forest) {id : String} :
    id ∈ names forest ↔ ∃ e ∈ es, e.id = id := by
  rw [← List.mem_map]
  refine ⟨h.names_forest.2.1 id, fun hid => ?_⟩
  by_contra hmem
  exact List.not_mem_nil (h.mem_left_iff.2 ⟨hid, hmem⟩)

/-- Every element of it is one of the list, below some parent. -/
theorem exists_of_mem (h : Grows es forest) {y : Element} (hy : y ∈ flattenAll forest) :
    ∃ e ∈ es, ∃ parent, y = { e with parentId := parent, children := [] } := by
  refine Nests.exists_of_mem h (fun e he => ?_) hy
  rcases List.mem_append.1 he with he | he
  · exact (List.mem_filter.1 he).1
  · exact he

/-- Its elements name the parents that they are below. -/
theorem isNested (h : Grows es forest) (hnodup : (es.map (·.id)).Nodup) :
    IsNested none forest := by
  refine Nests.isNested h hnodup (fun e he => ?_)
    fun id hid => absurd hid.symm (Option.some_ne_none id)
  rcases List.mem_append.1 he with he | he
  · exact (List.mem_filter.1 he).1
  · exact he

end Grows

/-- The flat list of a consistently nested forest becomes that forest. -/
theorem grows_flattenAll {forest : List Element} (h : IsNested none forest)
    (hnodup : (names forest).Nodup) : Grows (flattenAll forest) forest := by
  have hparentOf : ∀ y ∈ flattenAll forest, parentOf? (flattenAll forest) y = y.parentId := by
    intro y hy
    rcases h.parentId_of_mem hnodup hy with ⟨hnone, -⟩ | ⟨hsection, z, hz, haccepts, hne, hparent⟩
    · rw [parentOf?, hnone, Option.filter_none, ite_self]
    · have hcontainer : isContainer (flattenAll forest) z.id = true :=
        List.any_eq_true.2 ⟨z, hz, by rw [haccepts, beq_self_eq_true, Bool.and_true]⟩
      rw [parentOf?, hsection, if_neg Bool.false_ne_true, hparent]
      refine Option.filter_some_pos ?_
      rw [hcontainer, Bool.and_true]
      exact bne_iff_ne.2 hne
  have hfilter (parent : Option String) :
      (flattenAll forest).filter (parentOf? (flattenAll forest) · == parent) =
        (flattenAll forest).filter (·.parentId == parent) :=
    List.filter_congr fun y hy => by rw [hparentOf y hy]
  have hrecorded : IsRecorded (flattenAll forest) none forest :=
    ⟨h, hnodup, fun id _ => (Option.some_ne_none id).symm, fun id _ => hfilter (some id)⟩
  have hwalk := hrecorded.nests fun id hid => hid
  have hleft : (names forest).filter (· ∉ names forest) = [] := by simp
  have hfirst : (flattenAll forest).filter
      (fun e => (parentOf? (flattenAll forest) e).isNone) = forest.map bare := by
    have hisNone (parent : Option String) : parent.isNone = (parent == none) := by
      cases parent <;> rfl
    simp only [hisNone]
    rw [hfilter none, h.filter_parentId fun id _ => (Option.some_ne_none id).symm, if_pos rfl]
  rw [hleft] at hwalk
  have hrest : Nests (flattenAll forest) none [] (flattenAll forest) [] [] :=
    Nests.of_forall_not_mem fun e _ => List.not_mem_nil
  have hall := hwalk.append hrest
  rw [List.append_nil, ← hfirst] at hall
  exact hall

end Compilation

end Sitework
