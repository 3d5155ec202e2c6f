import Sitework.Markup.Node

/-!
# Markup trees

Nodes are numbered in the order of their insertion, and each knows the number of its parent, which
was inserted before it. The children of a node are the nodes that have it as their parent, in order;
so parents and children always agree and no node is below itself. A node without a parent other than
the root is kept but not part of the tree.
-/

namespace Sitework

/-- A node at its place in a tree. -/
structure PlacedNode where
  /-- The node. -/
  node : MarkupNode
  /-- The element that the node stood for when it was inserted. -/
  index : Option String
  /-- The number of the parent. -/
  parent : Option Nat
deriving DecidableEq, Repr, Inhabited

/-- A tree of markup nodes. -/
structure MarkupTree where
  /-- The nodes in the order of their insertion. -/
  places : Array PlacedNode
  /-- The number of the root that was inserted last. -/
  root : Option Nat
  /-- A parent was inserted before its children. -/
  parent_lt : ∀ i, (h : i < places.size) → ∀ p ∈ places[i].parent, p < i

namespace MarkupTree

/-- The tree without nodes. -/
def empty : MarkupTree := ⟨#[], none, by simp⟩

instance : Inhabited MarkupTree := ⟨empty⟩

/-- The number of nodes. -/
def size (t : MarkupTree) : Nat :=
  t.places.size

/-- The node of a number. -/
def get? (t : MarkupTree) (i : Nat) : Option MarkupNode :=
  t.places[i]?.map (·.node)

/-- The number of a node's parent. -/
def parent? (t : MarkupTree) (i : Nat) : Option Nat :=
  t.places[i]?.bind (·.parent)

/-- The numbers of a node's children, in order. -/
def children (t : MarkupTree) (i : Nat) : List Nat :=
  (List.range t.size).filter fun c => t.parent? c = some i

/-- A node is a child of its parent, and of no other node. -/
@[simp] theorem mem_children {t : MarkupTree} {i c : Nat} :
    c ∈ t.children i ↔ t.parent? c = some i := by
  simp only [children, List.mem_filter, List.mem_range, decide_eq_true_eq, and_iff_right_iff_imp]
  intro h
  by_cases hc : c < t.size
  · exact hc
  · have hnone : t.places[c]? = none := Array.getElem?_eq_none (Nat.le_of_not_lt hc)
    simp [parent?, hnone] at h

/-- A node comes after its parent. -/
theorem lt_of_parent? {t : MarkupTree} {c i : Nat} (h : t.parent? c = some i) :
    i < c ∧ c < t.size := by
  obtain ⟨place, hplace, hparent⟩ := Option.bind_eq_some_iff.1 h
  obtain ⟨hc, rfl⟩ := Array.getElem?_eq_some_iff.1 hplace
  exact ⟨t.parent_lt c hc i hparent, hc⟩

/-- The tree with one more node, below `parent` if that is a node of the tree. -/
def push (t : MarkupTree) (parent : Option Nat) (n : MarkupNode) : MarkupTree where
  places := t.places.push ⟨n, n.elementId?, parent.filter (· < t.size)⟩
  root := t.root
  parent_lt := by
    intro i h p hp
    rw [Array.getElem_push] at hp
    split at hp
    · next hi => exact t.parent_lt i hi p hp
    · next hi =>
      have hlast : i < t.places.size + 1 := by simpa using h
      simp only [Option.mem_def, Option.filter_eq_some_iff, decide_eq_true_eq] at hp
      have : p < t.places.size := hp.2
      omega

/-- Inserts a root. A root that was inserted before is no longer part of the tree. Returns the
number of the new node. -/
def insertRoot (t : MarkupTree) (n : MarkupNode) : MarkupTree × Nat :=
  ({ t.push none n with root := some t.size }, t.size)

/-- Inserts a node as the last child of another. Below a number that is no node, the node has no
parent. Returns the number of the new node. -/
def insertChild (t : MarkupTree) (parent : Nat) (n : MarkupNode) : MarkupTree × Nat :=
  (t.push (some parent) n, t.size)

/-- The tree with a node replaced. The element that it is found under stays the same. -/
def set (t : MarkupTree) (i : Nat) (n : MarkupNode) : MarkupTree where
  places := t.places.modify i fun place => { place with node := n }
  root := t.root
  parent_lt := by
    intro j h p hp
    have hj : j < t.places.size := by simpa using h
    refine t.parent_lt j hj p ?_
    rw [Array.getElem_modify] at hp
    split at hp <;> exact hp

/-- The node that was inserted first for an element. -/
def find? (t : MarkupTree) (id : String) : Option Nat :=
  t.places.findIdx? fun place => place.index == some id

/-- Combines the results for the children of a node, from the leaves up. -/
def fold {α : Type} (t : MarkupTree) (f : Nat → List (Nat × α) → α) (i : Nat) : α :=
  f i ((t.children i).attach.map fun child => (child.val, fold t f child.val))
termination_by t.size - i
decreasing_by
  have := lt_of_parent? (mem_children.1 child.property)
  omega

/-- The numbers of a node and of all nodes below it, parents first and children in order. -/
def below (t : MarkupTree) (i : Nat) : List Nat :=
  t.fold (fun i results => i :: results.flatMap (·.2)) i

/-- The numbers of the nodes of the tree, parents first and children in order. -/
def preOrder (t : MarkupTree) : List Nat :=
  t.root.toList.flatMap t.below

/-- The numbers of the nodes of the tree that satisfy a condition, in the same order. -/
def query (t : MarkupTree) (p : MarkupNode → Bool) : List Nat :=
  t.preOrder.filter fun i => (t.get? i).any p

/-- The nodes of the tree, in the same order. -/
def nodes (t : MarkupTree) : List MarkupNode :=
  t.preOrder.filterMap t.get?

/-- A combined result is that of the node with those of its children. -/
theorem fold_eq {α : Type} (t : MarkupTree) (f : Nat → List (Nat × α) → α) (i : Nat) :
    t.fold f i = f i ((t.children i).map fun c => (c, t.fold f c)) := by
  rw [fold]
  congr 1
  exact @List.attach_map_val _ _ (t.children i) fun c => (c, t.fold f c)

/-- A node comes before the nodes below it, which follow child by child. -/
theorem below_eq (t : MarkupTree) (i : Nat) :
    t.below i = i :: (t.children i).flatMap t.below := by
  rw [below, fold_eq, List.flatMap_map]
  rfl

end MarkupTree

end Sitework
