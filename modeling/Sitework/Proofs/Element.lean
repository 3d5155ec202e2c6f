import Mathlib.Tactic.ByContra
import Sitework.Element

/-!
# Nested elements and their flat list

A forest of nested elements is nested consistently if each element names the one around it, and
nothing is nested in an element of a kind without children. With different names, the children of
an element are exactly those of the flat list that name it as their parent, in order.
-/

namespace Sitework

namespace Element

/-- The element without nested children. -/
def bare (e : Element) : Element :=
  { e with children := [] }

/-- An element is its bare form with its children. -/
theorem bare_withChildren (e : Element) :
    { e.bare with parentId := e.parentId, children := e.children } = e := by
  cases e
  rfl

@[simp] theorem flattenAll_nil : flattenAll [] = [] := rfl

/-- The elements nested in the first one come before the others. -/
theorem flattenAll_cons (e : Element) (es : List Element) :
    flattenAll (e :: es) = e.bare :: (flattenAll e.children ++ flattenAll es) := by
  cases e
  rfl

/-- What passes from the children and the siblings to an element with them holds of all forests. -/
theorem forestInduction {P : List Element → Prop} (nil : P [])
    (cons : ∀ e es, P e.children → P es → P (e :: es)) (es : List Element) : P es :=
  match es with
  | [] => nil
  | e :: es => cons e es (forestInduction nil cons e.children) (forestInduction nil cons es)
termination_by sizeOf es
decreasing_by
  · cases e
    simp only [List.cons.sizeOf_spec, mk.sizeOf_spec]
    omega
  · simp only [List.cons.sizeOf_spec]
    omega

/-- The names in a forest, parents first. -/
def names (es : List Element) : List String :=
  (flattenAll es).map (·.id)

@[simp] theorem names_nil : names [] = [] := rfl

/-- The names of a forest are those of its first tree before the others. -/
theorem names_cons (e : Element) (es : List Element) :
    names (e :: es) = e.id :: (names e.children ++ names es) := by
  rw [names, flattenAll_cons, List.map_cons, List.map_append]
  rfl

/-- An element, its children or the others have a name of the forest. -/
theorem mem_names_cons {e : Element} {es : List Element} {id : String} :
    id ∈ names (e :: es) ↔ id = e.id ∨ id ∈ names e.children ∨ id ∈ names es := by
  rw [names_cons, List.mem_cons, List.mem_append]

/-- Different names in a forest are different in each part of it. -/
theorem nodup_names_cons {e : Element} {es : List Element} :
    (names (e :: es)).Nodup ↔ e.id ∉ names e.children ∧ e.id ∉ names es ∧
      (names e.children).Nodup ∧ (names es).Nodup ∧
        ∀ id ∈ names e.children, id ∉ names es := by
  rw [names_cons, List.nodup_cons, List.mem_append, not_or, List.nodup_append, and_assoc]
  constructor
  · rintro ⟨hchildren, hrest, hinner, hsiblings, hdisjoint⟩
    exact ⟨hchildren, hrest, hinner, hsiblings, fun id hid hmem => hdisjoint id hid id hmem rfl⟩
  · rintro ⟨hchildren, hrest, hinner, hsiblings, hdisjoint⟩
    exact ⟨hchildren, hrest, hinner, hsiblings, fun id hid other hmem heq =>
      hdisjoint id hid (heq ▸ hmem)⟩

/-- Each element comes after its parent, which may also be one of those seen before. -/
def ParentsFirst : List String → List Element → Prop
  | _, [] => True
  | seen, e :: es => (∀ id, e.parentId = some id → id ∈ seen) ∧ ParentsFirst (e.id :: seen) es

namespace ParentsFirst

variable {seen more : List String} {es before after : List Element}

/-- With more names seen before, parents still come first. -/
theorem mono (h : ParentsFirst seen es) (hmore : seen ⊆ more) : ParentsFirst more es := by
  induction es generalizing seen more with
  | nil => trivial
  | cons e es ih =>
    obtain ⟨hparent, hrest⟩ := h
    exact ⟨fun id hid => hmore (hparent id hid), ih hrest (List.cons_subset_cons _ hmore)⟩

/-- Parents come first in two parts in a row if they do in each. -/
theorem append (hbefore : ParentsFirst seen before) (hafter : ParentsFirst seen after) :
    ParentsFirst seen (before ++ after) := by
  induction before generalizing seen with
  | nil => exact hafter
  | cons e before ih =>
    obtain ⟨hparent, hrest⟩ := hbefore
    exact ⟨hparent, ih hrest (hafter.mono (List.subset_cons_self _ _))⟩

/-- The parent of an element is seen before or listed before. -/
theorem parentId_mem {y : Element} (h : ParentsFirst seen (before ++ y :: after)) {id : String}
    (hid : y.parentId = some id) : id ∈ seen ∨ id ∈ before.map (·.id) := by
  induction before generalizing seen with
  | nil => exact .inl (h.1 id hid)
  | cons e before ih =>
    rcases ih h.2 with hseen | hbefore
    · rw [List.mem_cons] at hseen
      rcases hseen with rfl | hseen
      · exact .inr List.mem_cons_self
      · exact .inl hseen
    · exact .inr (List.mem_cons_of_mem _ hbefore)

end ParentsFirst

/-- A forest below a parent in which each element names the one that it is nested in, sections are
nested in nothing, and only kinds that may have children do. -/
inductive IsNested : Option String → List Element → Prop
  | nil (parent : Option String) : IsNested parent []
  | cons {parent : Option String} {e : Element} {es : List Element} :
    e.parentId = parent → (e.isSection = true → parent = none) →
    (e.children ≠ [] → e.kind.acceptsChildren = true) →
    IsNested (some e.id) e.children → IsNested parent es → IsNested parent (e :: es)

namespace IsNested

variable {parent : Option String} {es : List Element}

/-- The flat list of a forest has parents before their children. -/
theorem parentsFirst (h : IsNested parent es) {seen : List String}
    (hseen : ∀ id, parent = some id → id ∈ seen) : ParentsFirst seen (flattenAll es) := by
  induction h generalizing seen with
  | nil parent => trivial
  | @cons parent e es hparent _ _ _ _ ihchildren ihrest =>
    rw [flattenAll_cons]
    refine ⟨fun id hid => hseen id (hparent.symm.trans hid), ?_⟩
    apply ParentsFirst.append
    · apply ihchildren
      rintro id ⟨⟩
      exact List.mem_cons_self
    · apply ihrest
      intro id hid
      exact List.mem_cons_of_mem _ (hseen id hid)

/-- The elements that name a parent from outside of a forest are its outermost ones, if that is
the parent of the forest, and else there are none. -/
theorem filter_parentId (h : IsNested parent es) {other : Option String}
    (hother : ∀ id ∈ names es, other ≠ some id) :
    (flattenAll es).filter (·.parentId == other) =
      if parent = other then es.map bare else [] := by
  induction h with
  | nil parent => rw [flattenAll_nil, List.filter_nil, List.map_nil, ite_self]
  | @cons parent e es hparent _ _ _ _ ihchildren ihrest =>
    have hself : other ≠ some e.id := hother _ (mem_names_cons.2 (.inl rfl))
    have hchildren := ihchildren fun id hid => hother id (mem_names_cons.2 (.inr (.inl hid)))
    have hrest := ihrest fun id hid => hother id (mem_names_cons.2 (.inr (.inr hid)))
    rw [if_neg (Ne.symm hself)] at hchildren
    have hfirst : (e.bare.parentId == other) = (parent == other) := by rw [← hparent]; rfl
    rw [flattenAll_cons, List.filter_cons, List.filter_append, hchildren, hrest, List.nil_append,
      hfirst, List.map_cons]
    by_cases heq : parent = other
    · rw [if_pos (beq_iff_eq.2 heq), if_pos heq, if_pos heq]
    · rw [if_neg (fun hbeq => heq (beq_iff_eq.1 hbeq)), if_neg heq, if_neg heq]

/-- An element of a forest either is an outermost one or names another element of the forest, of a
kind that may have children. -/
theorem parentId_of_mem (h : IsNested parent es) (hnodup : (names es).Nodup) {y : Element}
    (hy : y ∈ flattenAll es) :
    y.parentId = parent ∧ (y.isSection = true → parent = none) ∨
      y.isSection = false ∧ ∃ z ∈ flattenAll es,
        z.kind.acceptsChildren = true ∧ z.id ≠ y.id ∧ y.parentId = some z.id := by
  induction h with
  | nil parent => exact absurd hy List.not_mem_nil
  | @cons parent e es hparent hsection haccepts _ _ ihchildren ihrest =>
    obtain ⟨hself, -, hinner, hsiblings, -⟩ := nodup_names_cons.1 hnodup
    rw [flattenAll_cons, List.mem_cons, List.mem_append] at hy
    rw [flattenAll_cons]
    rcases hy with rfl | hy | hy
    · exact .inl ⟨hparent, hsection⟩
    · refine .inr ?_
      rcases ihchildren hinner hy with ⟨hnamed, hsection⟩ | ⟨hsection, z, hz, hrest⟩
      · refine ⟨Bool.eq_false_iff.2 fun hs => Option.some_ne_none _ (hsection hs), e.bare,
          List.mem_cons_self, haccepts ?_, ?_, hnamed⟩
        · intro hempty
          rw [hempty] at hy
          exact List.not_mem_nil hy
        · intro heq
          exact hself (List.mem_map.2 ⟨y, hy, heq.symm⟩)
      · exact ⟨hsection, z, List.mem_cons_of_mem _ (List.mem_append_left _ hz), hrest⟩
    · rcases ihrest hsiblings hy with hroot | ⟨hsection, z, hz, hrest⟩
      · exact .inl hroot
      · exact .inr ⟨hsection, z, List.mem_cons_of_mem _ (List.mem_append_right _ hz), hrest⟩

/-- No element names a parent that is neither in the forest nor around it. -/
theorem filter_parentId_of_ne (h : IsNested parent es) {id : String} (hparent : parent ≠ some id)
    (hid : id ∉ names es) : (flattenAll es).filter (·.parentId == some id) = [] := by
  have hother : ∀ other ∈ names es, some id ≠ some other := by
    rintro other hmem heq
    obtain rfl := Option.some.inj heq
    exact hid hmem
  rw [h.filter_parentId hother, if_neg hparent]

section Parts

variable {e : Element} (h : IsNested parent (e :: es))
  (hparent : ∀ id ∈ names (e :: es), parent ≠ some id)
include h hparent

/-- The element itself names none of the forest. -/
private theorem filter_parentId_split {id : String} (hid : id ∈ names (e :: es)) :
    (flattenAll (e :: es)).filter (·.parentId == some id) =
      (flattenAll e.children).filter (·.parentId == some id) ++
        (flattenAll es).filter (·.parentId == some id) := by
  cases h with
  | cons hown _ _ _ _ =>
    have hfirst : (e.bare.parentId == some id) = false :=
      beq_eq_false_iff_ne.2 fun heq => hparent id hid (hown.symm.trans heq)
    rw [flattenAll_cons, List.filter_cons, hfirst, List.filter_append]
    rfl

variable (hnodup : (names (e :: es)).Nodup)
include hnodup

/-- The elements that name the first one are its children. -/
theorem filter_parentId_first :
    (flattenAll (e :: es)).filter (·.parentId == some e.id) = e.children.map bare := by
  have hmem : e.id ∈ names (e :: es) := mem_names_cons.2 (.inl rfl)
  rw [h.filter_parentId_split hparent hmem]
  obtain ⟨hself, hlater, -⟩ := nodup_names_cons.1 hnodup
  cases h with
  | cons _ _ _ hinner hrest =>
    have hother : ∀ other ∈ names e.children, some e.id ≠ some other := by
      rintro other hmem heq
      rw [← Option.some.inj heq] at hmem
      exact hself hmem
    rw [hrest.filter_parentId_of_ne (hparent _ hmem) hlater, List.append_nil,
      hinner.filter_parentId hother, if_pos rfl]

/-- The elements that name one inside the first one are inside it as well. -/
theorem filter_parentId_inner {id : String} (hid : id ∈ names e.children) :
    (flattenAll (e :: es)).filter (·.parentId == some id) =
      (flattenAll e.children).filter (·.parentId == some id) := by
  have hmem : id ∈ names (e :: es) := mem_names_cons.2 (.inr (.inl hid))
  rw [h.filter_parentId_split hparent hmem]
  obtain ⟨-, -, -, -, hdisjoint⟩ := nodup_names_cons.1 hnodup
  cases h with
  | cons _ _ _ _ hrest =>
    rw [hrest.filter_parentId_of_ne (hparent id hmem) (hdisjoint id hid), List.append_nil]

/-- The elements that name one of the others or one inside of these are inside of these. -/
theorem filter_parentId_rest {id : String} (hid : id ∈ names es) :
    (flattenAll (e :: es)).filter (·.parentId == some id) =
      (flattenAll es).filter (·.parentId == some id) := by
  have hmem : id ∈ names (e :: es) := mem_names_cons.2 (.inr (.inr hid))
  rw [h.filter_parentId_split hparent hmem]
  obtain ⟨-, hlater, -, -, hdisjoint⟩ := nodup_names_cons.1 hnodup
  cases h with
  | cons _ _ _ hinner _ =>
    have hself : some e.id ≠ some id := fun heq => hlater (Option.some.inj heq ▸ hid)
    rw [hinner.filter_parentId_of_ne hself fun hinside => hdisjoint id hinside hid,
      List.nil_append]

end Parts

end IsNested

end Element

end Sitework
