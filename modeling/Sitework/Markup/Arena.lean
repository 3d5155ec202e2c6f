import Sitework.Markup.Node

/-!
# Arenas of markup nodes

A tree of markup nodes the way it is stored. The nodes stand in a row, and next to it one map holds
the children of each node, one the parent and one the node of each element. An insertion changes
every map by itself. The walk through the nodes keeps those that it has still to come to on a stack.
-/

namespace Sitework

/-- A map from the numbers of nodes, as a row of slots. -/
structure NodeMap (α : Type) where
  /-- The slots. A number without a value has a vacant slot, or lies beyond the row. -/
  slots : Array (Option α)
deriving DecidableEq, Repr

namespace NodeMap

variable {α : Type}

/-- The map without values. -/
def empty : NodeMap α := ⟨#[]⟩

/-- The value of a number. -/
def get? (m : NodeMap α) (i : Nat) : Option α :=
  m.slots[i]?.join

/-- The map with a value for a number. A row that is too short grows by vacant slots. -/
def insert (m : NodeMap α) (i : Nat) (x : α) : NodeMap α where
  slots := (m.slots ++ Array.replicate (i + 1 - m.slots.size) none).setIfInBounds i (some x)

@[simp] theorem get?_empty (i : Nat) : (empty : NodeMap α).get? i = none := rfl

/-- An inserted value is found under its number, and other numbers are unaffected. -/
@[simp] theorem get?_insert (m : NodeMap α) (i j : Nat) (x : α) :
    (m.insert i x).get? j = if j = i then some x else m.get? j := by
  have hgrown : i < (m.slots ++ Array.replicate (i + 1 - m.slots.size) (none : Option α)).size := by
    rw [Array.size_append, Array.size_replicate]
    omega
  rw [get?, insert, Array.getElem?_setIfInBounds]
  by_cases hji : j = i
  · rw [if_pos hji.symm, if_pos hgrown, if_pos hji, Option.join_some]
  · rw [if_neg (Ne.symm hji), if_neg hji, get?, Array.getElem?_append]
    split
    · rfl
    · next hj =>
      rw [Array.getElem?_eq_none (Nat.le_of_not_lt hj), Array.getElem?_replicate]
      split <;> rfl

end NodeMap

/-- The nodes of a tree with the maps that hold its structure. -/
structure MarkupArena where
  /-- The nodes in the order of their insertion. -/
  nodes : Array MarkupNode
  /-- The children of every node, in order. -/
  childLists : NodeMap (List Nat)
  /-- The parents of the nodes that have one. -/
  parents : NodeMap Nat
  /-- The nodes of elements, by the name of the element. -/
  elements : OrderedMap Nat
  /-- The number of the root that was inserted last. -/
  root : Option Nat
deriving DecidableEq, Repr

namespace MarkupArena

/-- The arena without nodes. -/
def empty : MarkupArena := ⟨#[], .empty, .empty, .empty, none⟩

instance : Inhabited MarkupArena := ⟨empty⟩

/-- The number of nodes. -/
def size (a : MarkupArena) : Nat :=
  a.nodes.size

/-- The node of a number. -/
def get? (a : MarkupArena) (i : Nat) : Option MarkupNode :=
  a.nodes[i]?

/-- The number of a node's parent. -/
def parent? (a : MarkupArena) (i : Nat) : Option Nat :=
  a.parents.get? i

/-- The numbers of a node's children, in order. -/
def children (a : MarkupArena) (i : Nat) : List Nat :=
  (a.childLists.get? i).getD []

/-- The node that was inserted first for an element. -/
def find? (a : MarkupArena) (id : String) : Option Nat :=
  a.elements.get? id

/-- The nodes of elements once a node is stored. An element that has a node keeps it. -/
def register (elements : OrderedMap Nat) (n : MarkupNode) (i : Nat) : OrderedMap Nat :=
  match n.elementId? with
  | some id => if elements.contains id then elements else elements.insert id i
  | none => elements

/-- An element that had no node is found at the stored one, if that stands for it. -/
theorem get?_register (elements : OrderedMap Nat) (n : MarkupNode) (i : Nat) (id : String) :
    (register elements n i).get? id =
      (elements.get? id).or (if n.elementId? = some id then some i else none) := by
  rw [register]
  cases n.elementId? with
  | none => simp
  | some name =>
    change (if elements.contains name then elements else elements.insert name i).get? id = _
    rw [apply_ite (OrderedMap.get? · id), OrderedMap.get?_insert]
    by_cases hname : name = id
    · subst hname
      cases hfound : elements.get? name <;> simp [OrderedMap.contains, hfound]
    · simp [hname, Ne.symm hname]

/-- Stores a node that has neither a parent nor children. Returns its number. -/
def add (a : MarkupArena) (n : MarkupNode) : MarkupArena × Nat :=
  ({ a with
      nodes := a.nodes.push n
      childLists := a.childLists.insert a.size []
      elements := register a.elements n a.size },
    a.size)

/-- Inserts a root. A root that was inserted before stays, with the nodes below it, but the walk
no longer comes to it. Returns the number of the new node. -/
def insertRoot (a : MarkupArena) (n : MarkupNode) : MarkupArena × Nat :=
  let (b, i) := a.add n
  ({ b with root := some i }, i)

/-- Makes a node the last child of another. Below a number that is no node it stays where it is. -/
def link (a : MarkupArena) (parent i : Nat) : MarkupArena :=
  match a.childLists.get? parent with
  | some siblings =>
    { a with
      childLists := a.childLists.insert parent (siblings ++ [i])
      parents := a.parents.insert i parent }
  | none => a

section Link

variable {a : MarkupArena} {parent i : Nat} {siblings : List Nat}

@[simp] theorem size_link : (a.link parent i).size = a.size := by
  rw [link]
  split <;> rfl

@[simp] theorem get?_link (j : Nat) : (a.link parent i).get? j = a.get? j := by
  rw [link]
  split <;> rfl

@[simp] theorem find?_link (id : String) : (a.link parent i).find? id = a.find? id := by
  rw [link]
  split <;> rfl

@[simp] theorem root_link : (a.link parent i).root = a.root := by
  rw [link]
  split <;> rfl

theorem link_of_none (h : a.childLists.get? parent = none) : a.link parent i = a := by
  rw [link, h]

/-- Linking sets the parent of the node that is linked. -/
theorem parent?_link_of_some (h : a.childLists.get? parent = some siblings) (j : Nat) :
    (a.link parent i).parent? j = if j = i then some parent else a.parent? j := by
  rw [link, h]
  exact NodeMap.get?_insert ..

/-- It adds the node to the end of the parent's list. -/
theorem childLists_link_of_some (h : a.childLists.get? parent = some siblings) (j : Nat) :
    (a.link parent i).childLists.get? j =
      if j = parent then some (siblings ++ [i]) else a.childLists.get? j := by
  rw [link, h]
  exact NodeMap.get?_insert ..

end Link

/-- Inserts a node as the last child of another. The node is stored before the parent is looked up.
Returns the number of the new node. -/
def insertChild (a : MarkupArena) (parent : Nat) (n : MarkupNode) : MarkupArena × Nat :=
  let (b, i) := a.add n
  (b.link parent i, i)

theorem insertChild_fst (a : MarkupArena) (parent : Nat) (n : MarkupNode) :
    (a.insertChild parent n).1 = (a.add n).1.link parent a.size := rfl

/-- The arena with a function applied to the node of a number. The maps stay as they are. -/
def modify (a : MarkupArena) (i : Nat) (f : MarkupNode → MarkupNode) : MarkupArena :=
  { a with nodes := a.nodes.modify i f }

/-- What the walk through the nodes keeps. -/
structure Walk where
  /-- The nodes that it has still to come to, the next one last. -/
  stack : Array Nat
  /-- The nodes that it has come to, in order. -/
  visited : Array Nat
deriving DecidableEq, Repr

/-- The walk from the root at its start. -/
def start (a : MarkupArena) : Walk := ⟨a.root.toArray, #[]⟩

/-- One step of the walk: it takes the last node off the stack and puts its children there, the
first one last. When the stack is empty the walk has ended. -/
def step (a : MarkupArena) (w : Walk) : Walk :=
  match w.stack.back? with
  | none => w
  | some i => ⟨w.stack.pop ++ (a.children i).reverse, w.visited.push i⟩

end MarkupArena

end Sitework
