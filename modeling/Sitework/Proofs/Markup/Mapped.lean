import Mathlib.Data.List.Basic
import Sitework.Proofs.Markup.Tree

/-!
# Trees with other nodes

A tree in which every node is replaced has the same shape: the same parents, and so the same walk.
Replacing one node after the other comes to the same tree, if every node has its turn for which it
makes a difference.
-/

namespace Sitework

namespace PlacedNode

/-- The place with a function applied to its node. -/
def mapNode (f : MarkupNode → MarkupNode) (place : PlacedNode) : PlacedNode :=
  { place with node := f place.node }

end PlacedNode

namespace MarkupTree

variable {f : MarkupNode → MarkupNode} {t u : MarkupTree}

/-- Trees with the same places and the same root are equal. -/
theorem ext_places (hplaces : ∀ i : Nat, t.places[i]? = u.places[i]?) (hroot : t.root = u.root) :
    t = u := by
  have hsame : t.places = u.places := Array.ext_getElem? hplaces
  cases t
  cases u
  cases hsame
  cases hroot
  rfl

/-- The tree with a function applied to every node. The elements that nodes are found under stay
the same. -/
def mapNodes (f : MarkupNode → MarkupNode) (t : MarkupTree) : MarkupTree where
  places := t.places.map (PlacedNode.mapNode f)
  root := t.root
  parent_lt := by
    intro i h p hp
    have hi : i < t.places.size := by simpa using h
    refine t.parent_lt i hi p ?_
    rw [Array.getElem_map] at hp
    exact hp

/-- The tree with a function applied to the node of a number. -/
def modify (t : MarkupTree) (i : Nat) (f : MarkupNode → MarkupNode) : MarkupTree :=
  match t.get? i with
  | some n => t.set i (f n)
  | none => t

@[simp] theorem size_mapNodes (f : MarkupNode → MarkupNode) (t : MarkupTree) :
    (t.mapNodes f).size = t.size :=
  Array.size_map ..

@[simp] theorem get?_mapNodes (f : MarkupNode → MarkupNode) (t : MarkupTree) (i : Nat) :
    (t.mapNodes f).get? i = (t.get? i).map f := by
  rw [get?, mapNodes, Array.getElem?_map, get?, Option.map_map, Option.map_map]
  rfl

@[simp] theorem parent?_mapNodes (f : MarkupNode → MarkupNode) (t : MarkupTree) (i : Nat) :
    (t.mapNodes f).parent? i = t.parent? i := by
  rw [parent?, mapNodes, Array.getElem?_map, parent?]
  cases t.places[i]? <;> rfl

/-- Mapping the nodes leaves the children where they are. -/
theorem children_mapNodes (f : MarkupNode → MarkupNode) (t : MarkupTree) (i : Nat) :
    (t.mapNodes f).children i = t.children i := by
  simp only [children, size_mapNodes, parent?_mapNodes]

/-- What is below a node depends on the parents only. -/
theorem below_mapNodes (f : MarkupNode → MarkupNode) (t : MarkupTree) (i : Nat) :
    (t.mapNodes f).below i = t.below i := by
  rw [below_eq, below_eq, children_mapNodes]
  congr 1
  refine List.flatMap_congr fun c hc => ?_
  have := lt_of_parent? (mem_children.1 hc)
  exact below_mapNodes f t c
termination_by t.size - i

@[simp] theorem preOrder_mapNodes (f : MarkupNode → MarkupNode) (t : MarkupTree) :
    (t.mapNodes f).preOrder = t.preOrder := by
  rw [preOrder, preOrder, funext (below_mapNodes f t)]
  rfl

/-- The walk comes to the replaced nodes, in the same order. -/
theorem nodes_mapNodes (f : MarkupNode → MarkupNode) (t : MarkupTree) :
    (t.mapNodes f).nodes = t.nodes.map f := by
  rw [nodes, nodes, preOrder_mapNodes, List.map_filterMap]
  exact List.filterMap_congr fun i _ => get?_mapNodes f t i

/-- A change in place maps the node of its number and leaves the others. -/
theorem places_modify (t : MarkupTree) (i j : Nat) (f : MarkupNode → MarkupNode) :
    (t.modify i f).places[j]? =
      if j = i then (t.places[j]?).map (PlacedNode.mapNode f) else t.places[j]? := by
  rw [modify]
  by_cases hij : j = i
  · subst hij
    rw [if_pos rfl]
    cases hplace : t.places[j]? with
    | none => rw [get?, hplace]; exact hplace
    | some place =>
      rw [get?, hplace, Option.map_some]
      change (t.set j (f place.node)).places[j]? = _
      rw [set, Array.getElem?_modify, if_pos rfl, hplace]
      rfl
  · rw [if_neg hij]
    split
    · rw [set, Array.getElem?_modify, if_neg (Ne.symm hij)]
    · rfl

/-- The root stays. -/
theorem root_modify (t : MarkupTree) (i : Nat) (f : MarkupNode → MarkupNode) :
    (t.modify i f).root = t.root := by
  rw [modify]
  split <;> rfl

section Steps

variable (hf : ∀ n, f (f n) = f n)
include hf

/-- A row of changes by a function that changes nothing twice maps each node of their numbers once.
-/
theorem places_foldl_modify (is : List Nat) (j : Nat) :
    (is.foldl (fun t i => t.modify i f) t).places[j]? =
      if j ∈ is then (t.places[j]?).map (PlacedNode.mapNode f) else t.places[j]? := by
  induction is generalizing t with
  | nil => rw [if_neg List.not_mem_nil]; rfl
  | cons i is ih =>
    have htwice (place : Option PlacedNode) :
        (place.map (PlacedNode.mapNode f)).map (PlacedNode.mapNode f) =
          place.map (PlacedNode.mapNode f) := by
      cases place with
      | none => rfl
      | some place => exact congrArg (fun n => some { place with node := n }) (hf place.node)
    rw [List.foldl_cons, ih, places_modify]
    by_cases hij : j = i <;> by_cases hmem : j ∈ is <;> simp [hij, hmem, htwice]

/-- Replacing nodes one after the other replaces all of them, if the others stay the same. -/
theorem foldl_modify_eq_mapNodes {is : List Nat}
    (hrest : ∀ i n, t.get? i = some n → i ∉ is → f n = n) :
    is.foldl (fun t i => t.modify i f) t = t.mapNodes f := by
  have hroot (u : MarkupTree) : (is.foldl (fun t i => t.modify i f) u).root = u.root := by
    clear hrest
    induction is generalizing u with
    | nil => rfl
    | cons i is ih => rw [List.foldl_cons, ih, root_modify]
  refine ext_places (fun j => ?_) (hroot t)
  rw [places_foldl_modify hf, mapNodes, Array.getElem?_map]
  split
  · rfl
  · next hmem =>
    cases hplace : t.places[j]? with
    | none => rfl
    | some place =>
      have hnode : t.get? j = some place.node := by rw [get?, hplace, Option.map_some]
      rw [Option.map_some, PlacedNode.mapNode, hrest j _ hnode hmem]

end Steps

end MarkupTree

end Sitework
