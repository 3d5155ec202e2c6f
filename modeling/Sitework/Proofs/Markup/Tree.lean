import Mathlib.Order.Nat
import Mathlib.Tactic.ByContra
import Sitework.Markup.Tree

/-!
# Trees that grow

A tree only grows by nodes that are pushed to it. An inserted node becomes the last child of its
parent, and whatever else was known of the nodes before stays true.
-/

namespace Sitework

namespace MarkupTree

variable {t u v : MarkupTree} {parent : Nat} {n : MarkupNode}

/-- What holds of a node if it holds of its children, holds of all nodes. -/
@[elab_as_elim]
theorem induction_children (t : MarkupTree) {motive : Nat → Prop}
    (step : ∀ i, (∀ c ∈ t.children i, motive c) → motive i) (i : Nat) : motive i := by
  induction hsize : t.size - i using Nat.strongRecOn generalizing i with
  | _ size ih =>
    refine step i fun c hc => ?_
    have hlt := lt_of_parent? (mem_children.1 hc)
    exact ih (t.size - c) (by omega) c rfl

/-- The name of the element that a node stands for. -/
def nameAt (t : MarkupTree) (i : Nat) : Option String :=
  (t.get? i).bind (·.elementId?)

theorem size_push (t : MarkupTree) (parent : Option Nat) (n : MarkupNode) :
    (t.push parent n).size = t.size + 1 :=
  Array.size_push ..

/-- A new node stands at the end, below its parent if that is a node. -/
theorem places_push (t : MarkupTree) (parent : Option Nat) (n : MarkupNode) (i : Nat) :
    (t.push parent n).places[i]? =
      if i = t.size then some ⟨n, n.elementId?, parent.filter (· < t.size)⟩ else t.places[i]? :=
  Array.getElem?_push

theorem get?_push (t : MarkupTree) (parent : Option Nat) (n : MarkupNode) (i : Nat) :
    (t.push parent n).get? i = if i = t.size then some n else t.get? i := by
  rw [get?, places_push]
  split <;> rfl

theorem get?_push_of_lt {parent : Option Nat} {i : Nat} (h : i < t.size) :
    (t.push parent n).get? i = t.get? i :=
  (get?_push ..).trans (if_neg h.ne)

theorem get?_push_size (parent : Option Nat) : (t.push parent n).get? t.size = some n :=
  (get?_push ..).trans (if_pos rfl)

/-- With one more node there are the nodes from before and the new one. -/
theorem get?_push_eq_some {parent : Option Nat} {i : Nat} {m : MarkupNode} :
    (t.push parent n).get? i = some m ↔ t.get? i = some m ∨ i = t.size ∧ n = m := by
  rw [get?_push]
  by_cases h : i = t.size
  · have hnone : t.get? i = none := by
      rw [h, get?, size, Array.getElem?_size]
      rfl
    rw [if_pos h, hnone, Option.some.injEq]
    simp [h]
  · simp [h]

/-- A parent that is named for a node is one if it is a node of the tree. -/
theorem parent?_push (t : MarkupTree) (parent : Option Nat) (n : MarkupNode) (i : Nat) :
    (t.push parent n).parent? i =
      if i = t.size then parent.filter (· < t.size) else t.parent? i := by
  rw [parent?, places_push]
  split <;> rfl

theorem parent?_push_of_lt {parent : Option Nat} {i : Nat} (h : i < t.size) :
    (t.push parent n).parent? i = t.parent? i :=
  (parent?_push ..).trans (if_neg h.ne)

/-- A new node has the parent that is named for it, if that is a node. -/
theorem parent?_push_size (h : parent < t.size) :
    (t.push (some parent) n).parent? t.size = some parent := by
  rw [parent?_push, if_pos rfl, Option.filter_some_pos (by simpa using h)]

/-- A number that is no node has no parent. -/
theorem parent?_of_size_le {i : Nat} (h : t.size ≤ i) : t.parent? i = none := by
  cases hparent : t.parent? i with
  | none => rfl
  | some p => exact absurd (lt_of_parent? hparent).2 (Nat.not_lt.2 h)

/-- A node without a parent leaves all parents as they are. -/
theorem parent?_push_none (t : MarkupTree) (n : MarkupNode) (i : Nat) :
    (t.push none n).parent? i = t.parent? i := by
  rw [parent?_push]
  split
  · next hi => exact (parent?_of_size_le hi.ge).symm
  · rfl

/-- A node that was inserted below another one is its last child. -/
theorem children_push (h : parent < t.size) (i : Nat) :
    (t.push (some parent) n).children i =
      t.children i ++ if i = parent then [t.size] else [] := by
  have hbefore : (List.range t.size).filter
      (fun c => (t.push (some parent) n).parent? c = some i) = t.children i := by
    refine List.filter_congr fun c hc => ?_
    rw [parent?_push_of_lt (List.mem_range.1 hc)]
  rw [children, size_push, List.range_succ, List.filter_append, hbefore]
  by_cases hi : i = parent
  · simp [hi, parent?_push_size h]
  · simp [hi, parent?_push_size h, Ne.symm hi]

/-- A node without a parent is nobody's child. -/
theorem children_push_none (t : MarkupTree) (n : MarkupNode) (i : Nat) :
    (t.push none n).children i = t.children i := by
  have hnew : t.parent? t.size = none := parent?_of_size_le (Nat.le_refl _)
  simp [children, size_push, parent?_push_none, List.range_succ, hnew]

/-- Nothing is below a number that is no node. -/
theorem children_of_size_le {i : Nat} (h : t.size ≤ i) : t.children i = [] := by
  rw [List.eq_nil_iff_forall_not_mem]
  intro c hc
  have hlt := lt_of_parent? (mem_children.1 hc)
  omega

theorem lt_size_of_get? {i : Nat} (h : t.get? i = some n) : i < t.size := by
  by_contra hi
  have hnone : t.places[i]? = none := Array.getElem?_eq_none (Nat.le_of_not_lt hi)
  rw [get?, hnone] at h
  exact absurd h.symm (Option.some_ne_none n)

theorem exists_get? {i : Nat} (h : i < t.size) : ∃ n, t.get? i = some n :=
  ⟨_, congrArg (Option.map _) (Array.getElem?_eq_getElem h)⟩

/-- A tree with more nodes, of which some are new children of a node; no other node that was there
before has new children. -/
structure Extends (t u : MarkupTree) (parent : Nat) (added : List Nat) : Prop where
  size_le : t.size ≤ u.size
  get? : ∀ i < t.size, u.get? i = t.get? i
  parent? : ∀ i < t.size, u.parent? i = t.parent? i
  children : ∀ i < t.size, u.children i = t.children i ++ if i = parent then added else []
  root : u.root = t.root

namespace Extends

/-- A tree extends itself by nothing. -/
theorem refl (t : MarkupTree) (parent : Nat) : t.Extends t parent [] where
  size_le := Nat.le_refl _
  get? _ _ := rfl
  parent? _ _ := rfl
  children i _ := by rw [ite_self, List.append_nil]
  root := rfl

/-- With one more node, its parent has one more child. -/
theorem push (h : parent < t.size) (n : MarkupNode) :
    t.Extends (t.push (some parent) n) parent [t.size] where
  size_le := by
    rw [size_push]
    exact Nat.le_succ _
  get? _ hi := get?_push_of_lt hi
  parent? _ hi := parent?_push_of_lt hi
  children i _ := children_push h i
  root := rfl

/-- More children of the same node follow those that are there. -/
theorem append {first second : List Nat} (htu : t.Extends u parent first)
    (huv : u.Extends v parent second) : t.Extends v parent (first ++ second) where
  size_le := htu.size_le.trans huv.size_le
  get? i hi := (huv.get? i (hi.trans_le htu.size_le)).trans (htu.get? i hi)
  parent? i hi := (huv.parent? i (hi.trans_le htu.size_le)).trans (htu.parent? i hi)
  children i hi := by
    rw [huv.children i (hi.trans_le htu.size_le), htu.children i hi, List.append_assoc]
    by_cases h : i = parent
    · rw [if_pos h, if_pos h, if_pos h]
    · rw [if_neg h, if_neg h, if_neg h, List.append_nil]
  root := huv.root.trans htu.root

/-- Children of a new node are no children of one that was there. -/
theorem below {new : Nat} {added inner : List Nat} (htu : t.Extends u parent added)
    (huv : u.Extends v new inner) (hnew : t.size ≤ new) : t.Extends v parent added where
  size_le := htu.size_le.trans huv.size_le
  get? i hi := (huv.get? i (hi.trans_le htu.size_le)).trans (htu.get? i hi)
  parent? i hi := (huv.parent? i (hi.trans_le htu.size_le)).trans (htu.parent? i hi)
  children i hi := by
    rw [huv.children i (hi.trans_le htu.size_le), if_neg (hi.trans_le hnew).ne, List.append_nil,
      htu.children i hi]
  root := huv.root.trans htu.root

end Extends

end MarkupTree

end Sitework
