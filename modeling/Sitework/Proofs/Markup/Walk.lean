import Mathlib.Data.List.Nodup
import Mathlib.Data.List.Perm.Basic
import Mathlib.Logic.Relation
import Sitework.Proofs.Markup.Tree

/-!
# The walk through a tree

The nodes below a node are exactly those whose parents lead to it, each listed once. In a tree
whose first node is the root and where every other node has a parent, the walk from the root lists
all nodes.
-/

namespace Sitework.MarkupTree

variable {t : MarkupTree} {i j p : Nat}

/-- One comes to a node by going from another one to its parent any number of times. -/
def LeadsTo (t : MarkupTree) : Nat → Nat → Prop :=
  Relation.ReflTransGen fun c p => t.parent? c = some p

/-- Parents come first. -/
theorem LeadsTo.le (h : t.LeadsTo j i) : i ≤ j := by
  induction h with
  | refl => exact Nat.le_refl _
  | tail _ hparent ih => exact (lt_of_parent? hparent).1.le.trans ih

/-- What leads to a node without being it comes through one of the children. -/
theorem leadsTo_iff_children : t.LeadsTo j i ↔ j = i ∨ ∃ c ∈ t.children i, t.LeadsTo j c := by
  constructor
  · intro h
    rcases Relation.ReflTransGen.cases_tail h with heq | ⟨c, hc, hparent⟩
    · exact .inl heq.symm
    · exact .inr ⟨c, mem_children.2 hparent, hc⟩
  · rintro (rfl | ⟨c, hc, h⟩)
    · exact .refl
    · exact h.tail (mem_children.1 hc)

/-- Two nodes to which a third one leads are on one way to the root. -/
theorem LeadsTo.total {k : Nat} (hi : t.LeadsTo k i) (hj : t.LeadsTo k j) :
    t.LeadsTo i j ∨ t.LeadsTo j i := by
  refine Relation.ReflTransGen.total_of_right_unique ?_ hi hj
  intro c p q hp hq
  exact Option.some.inj (hp.symm.trans hq)

/-- The nodes below a node are those that lead to it. -/
@[simp] theorem mem_below {t : MarkupTree} {i j : Nat} : j ∈ t.below i ↔ t.LeadsTo j i := by
  rw [below_eq, List.mem_cons, List.mem_flatMap, leadsTo_iff_children]
  refine or_congr_right (exists_congr fun c => and_congr_right fun hc => ?_)
  have := lt_of_parent? (mem_children.1 hc)
  exact mem_below
termination_by t.size - i

/-- Of two children of a node none leads to the other. -/
private theorem eq_of_leadsTo_of_siblings {c d : Nat} (hc : t.parent? c = some p)
    (hd : t.parent? d = some p) (h : t.LeadsTo d c) : d = c := by
  rcases Relation.ReflTransGen.cases_head h with heq | ⟨q, hq, hlead⟩
  · exact heq
  · obtain rfl := Option.some.inj (hd.symm.trans hq)
    exact absurd (LeadsTo.le hlead) (Nat.not_le.2 (lt_of_parent? hc).1)

/-- No node is listed twice among the children of another. -/
theorem nodup_children (t : MarkupTree) (i : Nat) : (t.children i).Nodup :=
  List.nodup_range.filter _

/-- No node is listed twice among those below a node. -/
theorem nodup_below (t : MarkupTree) (i : Nat) : (t.below i).Nodup := by
  rw [below_eq, List.nodup_cons, List.mem_flatMap, List.nodup_flatMap]
  refine ⟨?_, ?_, ?_⟩
  · rintro ⟨c, hc, hmem⟩
    have hlt := (lt_of_parent? (mem_children.1 hc)).1
    exact absurd (mem_below.1 hmem).le (Nat.not_le.2 hlt)
  · intro c hc
    have := lt_of_parent? (mem_children.1 hc)
    exact nodup_below t c
  · refine (t.nodup_children i).imp_of_mem fun {c d} hc hd hne => ?_
    refine List.disjoint_left.2 ?_
    intro k hkc hkd
    rw [mem_children] at hc hd
    rcases (mem_below.1 hkc).total (mem_below.1 hkd) with h | h
    · exact hne (eq_of_leadsTo_of_siblings hd hc h)
    · exact hne (eq_of_leadsTo_of_siblings hc hd h).symm
termination_by t.size - i

/-- The walk comes to the nodes that lead to the root. -/
theorem mem_preOrder : i ∈ t.preOrder ↔ ∃ r, t.root = some r ∧ t.LeadsTo i r := by
  rw [preOrder, List.mem_flatMap]
  simp only [Option.mem_toList, mem_below]

/-- The walk comes to no node twice. -/
theorem nodup_preOrder (t : MarkupTree) : t.preOrder.Nodup := by
  rw [preOrder]
  cases t.root with
  | none => exact List.nodup_nil
  | some r =>
    rw [Option.toList_some, List.flatMap_singleton]
    exact t.nodup_below r

/-- If the first node is the root and all others have a parent, then the walk lists each node. -/
theorem preOrder_perm_range (hroot : t.root = some 0) (hsize : 0 < t.size)
    (hparent : ∀ i < t.size, i ≠ 0 → (t.parent? i).isSome = true) :
    t.preOrder.Perm (List.range t.size) := by
  have hleads : ∀ i < t.size, t.LeadsTo i 0 := by
    intro i
    induction i using Nat.strong_induction_on with
    | _ i ih =>
      intro hi
      by_cases hzero : i = 0
      · exact hzero ▸ .refl
      · obtain ⟨p, hp⟩ := Option.isSome_iff_exists.1 (hparent i hi hzero)
        have hlt := (lt_of_parent? hp).1
        exact .head hp (ih p hlt (hlt.trans hi))
  have hwalk : t.preOrder = t.below 0 := by
    rw [preOrder, hroot, Option.toList_some, List.flatMap_singleton]
  rw [hwalk, List.perm_ext_iff_of_nodup (t.nodup_below 0) List.nodup_range]
  intro i
  rw [mem_below, List.mem_range]
  refine ⟨fun h => ?_, hleads i⟩
  rcases Relation.ReflTransGen.cases_head h with heq | ⟨p, hp, -⟩
  · exact heq ▸ hsize
  · exact (lt_of_parent? hp).2

/-- The names under which nodes are found, in the order of insertion. -/
def indexed (t : MarkupTree) : List String :=
  t.places.toList.filterMap (·.index)

theorem indexed_push (t : MarkupTree) (parent : Option Nat) (n : MarkupNode) :
    (t.push parent n).indexed = t.indexed ++ n.elementId?.toList := by
  rw [indexed, push, Array.toList_push, List.filterMap_append, ← indexed]
  cases n.elementId? <;> simp

/-- The nodes in the order of their numbers. -/
theorem filterMap_get?_range (t : MarkupTree) :
    (List.range t.size).filterMap t.get? = t.places.toList.map (·.node) := by
  have hall : (List.range t.size).map t.get? =
      t.places.toList.map fun place => some place.node := by
    refine List.ext_getElem (by simp [size]) fun i hi hplace => ?_
    rw [List.length_map] at hplace
    simp [get?, Array.getElem?_eq_getElem hplace]
  calc (List.range t.size).filterMap t.get?
      = ((List.range t.size).map t.get?).filterMap id := by rw [List.filterMap_map]; rfl
    _ = t.places.toList.map (·.node) := by
      rw [hall, List.filterMap_map]
      exact congrFun List.filterMap_eq_map' _

/-- Every node is found under the name of the element that it stands for. -/
def IsIndexed (t : MarkupTree) : Prop :=
  ∀ place ∈ t.places, place.index = place.node.elementId?

namespace IsIndexed

/-- A new node is found by the element that it stands for. -/
theorem push (h : t.IsIndexed) (parent : Option Nat) (n : MarkupNode) :
    (t.push parent n).IsIndexed := by
  intro place hplace
  rcases Array.mem_push.1 hplace with hmem | rfl
  · exact h place hmem
  · rfl

/-- Nodes are found under the names of the element nodes. -/
theorem indexed_eq (h : t.IsIndexed) :
    t.indexed = ((List.range t.size).filterMap t.get?).filterMap (·.elementId?) := by
  rw [filterMap_get?_range, List.filterMap_map]
  exact List.filterMap_congr fun place hplace => h place (Array.mem_toList_iff.1 hplace)

/-- If no name is repeated, an element is found at its node. -/
theorem find?_eq_some (h : t.IsIndexed) (hnodup : t.indexed.Nodup) {n : MarkupNode} {id : String}
    (hget : t.get? i = some n) (hid : n.elementId? = some id) : t.find? id = some i := by
  obtain ⟨place, hplace, rfl⟩ := Option.map_eq_some_iff.1 hget
  obtain ⟨hi, rfl⟩ := Array.getElem?_eq_some_iff.1 hplace
  have hindex : t.places[i].index = some id := (h _ (Array.getElem_mem hi)).trans hid
  rw [find?, Array.findIdx?_eq_some_iff_getElem]
  refine ⟨hi, beq_iff_eq.2 hindex, fun j hji hfound => ?_⟩
  rw [indexed, List.Nodup, List.pairwise_filterMap, List.pairwise_iff_getElem] at hnodup
  exact hnodup j i (hji.trans hi) hi hji id (beq_iff_eq.1 hfound) id hindex rfl

end IsIndexed

end Sitework.MarkupTree
