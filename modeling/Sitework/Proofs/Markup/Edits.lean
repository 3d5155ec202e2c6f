import Mathlib.Data.List.Induction
import Sitework.Proofs.Markup.Mapped
import Sitework.Proofs.Markup.Walk

/-!
# Trees by their calls

A tree that starts without nodes and is changed by calls: nodes are inserted as roots or below
other nodes, and nodes are changed in place. What is kept of the calls are the insertions. They
decide which node has which parent, where an element is found and which node is the root; changes in
place decide nothing of this.
-/

namespace Sitework

/-- A call that changes a tree. -/
inductive TreeEdit where
  /-- Inserts a root. -/
  | insertRoot (n : MarkupNode)
  /-- Inserts a node below a number. -/
  | insertChild (parent : Nat) (n : MarkupNode)
  /-- Changes the node of a number in place. -/
  | modify (i : Nat) (f : MarkupNode → MarkupNode)

/-- What a call inserts. -/
structure Insertion where
  /-- The number that is named as the parent. A root has none. -/
  parent : Option Nat
  /-- The node as it is inserted. -/
  node : MarkupNode

/-- The number of the last insertion without a parent. -/
def Insertion.lastRoot? (insertions : List Insertion) : Option Nat :=
  (insertions.zipIdx.filter fun x => x.1.parent.isNone).getLast?.map (·.2)

namespace TreeEdit

/-- What a call inserts. -/
def insertion? : TreeEdit → Option Insertion
  | .insertRoot n => some ⟨none, n⟩
  | .insertChild parent n => some ⟨some parent, n⟩
  | .modify _ _ => none

/-- What calls insert, in order. -/
def insertions (edits : List TreeEdit) : List Insertion :=
  edits.filterMap insertion?

/-- The number that is named as the parent of a node. -/
def named? (edits : List TreeEdit) (i : Nat) : Option Nat :=
  (insertions edits)[i]?.bind (·.parent)

/-- An insertion gives its node the number of insertions before it. No call names this number as
the parent: it is none that was returned earlier. -/
def NamesOthers (edits : List TreeEdit) : Prop :=
  ∀ call ∈ (insertions edits).zipIdx, call.1.parent ≠ some call.2

variable {edits : List TreeEdit} {e : TreeEdit}

theorem insertions_concat (edits : List TreeEdit) (e : TreeEdit) :
    insertions (edits ++ [e]) = insertions edits ++ e.insertion?.toList := by
  rw [insertions, List.filterMap_append, ← insertions]
  cases he : e.insertion? <;> simp [he]

/-- The last call names the parent of the last node, if it inserts one. -/
theorem named?_concat (edits : List TreeEdit) (e : TreeEdit) (i : Nat) :
    named? (edits ++ [e]) i =
      if i = (insertions edits).length then e.insertion?.bind (·.parent) else named? edits i := by
  rw [named?, insertions_concat, List.getElem?_append]
  split_ifs with hlt heq heq
  · omega
  · rfl
  · subst heq
    cases e.insertion? <;> simp
  · have hbeyond : i - (insertions edits).length ≠ 0 := by omega
    rw [named?, List.getElem?_eq_none (Nat.le_of_not_lt hlt)]
    cases e.insertion? <;> simp [hbeyond]

/-- That no call names the number that it is about to give, by the numbers of the nodes. -/
theorem namesOthers_iff : NamesOthers edits ↔ ∀ i, named? edits i ≠ some i := by
  simp only [NamesOthers, Prod.forall, List.mem_zipIdx_iff_getElem?, named?]
  refine ⟨fun h i hi => ?_, fun h x i hx hparent => h i (by rw [hx]; exact hparent)⟩
  obtain ⟨x, hx, hparent⟩ := Option.bind_eq_some_iff.1 hi
  exact h x i hx hparent

end TreeEdit

namespace MarkupTree

open TreeEdit (insertions)

variable {t u : MarkupTree}

section Marks

/-- What is kept of every node beside the node itself: the element that it was inserted for and its
parent. -/
def marks (t : MarkupTree) : List (Option String × Option Nat) :=
  t.places.toList.map fun place => (place.index, place.parent)

theorem length_marks (t : MarkupTree) : t.marks.length = t.size := by
  rw [marks, List.length_map, Array.length_toList, size]

theorem parent?_eq_marks (t : MarkupTree) (i : Nat) : t.parent? i = t.marks[i]?.bind (·.2) := by
  rw [parent?, marks, List.getElem?_map, Array.getElem?_toList]
  cases t.places[i]? <;> rfl

/-- An element is found at the first mark with its name. -/
theorem find?_eq_marks (t : MarkupTree) (id : String) :
    t.find? id = t.marks.findIdx? fun mark => mark.1 == some id := by
  rw [marks, List.findIdx?_map, ← List.findIdx?_toArray]
  rfl

/-- The children of a node depend on the marks only. -/
theorem children_congr (h : t.marks = u.marks) (i : Nat) : t.children i = u.children i := by
  have hsize : t.size = u.size := by rw [← length_marks, h, length_marks]
  simp only [children, hsize, parent?_eq_marks, h]

end Marks

section Push

/-- A new node adds its mark. -/
theorem marks_push (t : MarkupTree) (parent : Option Nat) (n : MarkupNode) :
    (t.push parent n).marks = t.marks ++ [(n.elementId?, parent.filter (· < t.size))] := by
  rw [marks, push, Array.toList_push, List.map_append, marks]
  rfl

/-- A later node is found only if there was none for the element. -/
theorem find?_push (t : MarkupTree) (parent : Option Nat) (n : MarkupNode) (id : String) :
    (t.push parent n).find? id =
      (t.find? id).or (if n.elementId? = some id then some t.size else none) := by
  rw [find?, push, Array.findIdx?_push, ← find?]
  simp only [beq_iff_eq]
  rfl

/-- Below a number that is no node a node is inserted as one without a parent. -/
theorem push_of_size_le {p : Nat} (h : t.size ≤ p) (n : MarkupNode) :
    t.push (some p) n = t.push none n := by
  refine ext_places (fun i => ?_) rfl
  rw [places_push, places_push, Option.filter_some_neg (by simpa using h), Option.filter_none]

end Push

section Modify

variable (t : MarkupTree) (i : Nat) (f : MarkupNode → MarkupNode)

/-- A change in place concerns the node of its number only. -/
theorem get?_modify (j : Nat) :
    (t.modify i f).get? j = if j = i then (t.get? j).map f else t.get? j := by
  rw [get?, places_modify, get?]
  split
  · cases t.places[j]? <;> rfl
  · rfl

/-- A change in place leaves the parents and the elements that nodes were inserted for. -/
theorem marks_modify : (t.modify i f).marks = t.marks := by
  refine List.ext_getElem? fun j => ?_
  rw [marks, marks, List.getElem?_map, List.getElem?_map, Array.getElem?_toList,
    Array.getElem?_toList, places_modify]
  split
  · cases t.places[j]? <;> rfl
  · rfl

theorem size_modify : (t.modify i f).size = t.size := by
  rw [← length_marks, marks_modify, length_marks]

end Modify

/-- The tree after a call. -/
def edit (t : MarkupTree) : TreeEdit → MarkupTree
  | .insertRoot n => (t.insertRoot n).1
  | .insertChild parent n => (t.insertChild parent n).1
  | .modify i f => t.modify i f

/-- The tree that calls build. -/
def built (edits : List TreeEdit) : MarkupTree :=
  edits.foldl edit empty

section Built

variable {edits : List TreeEdit}

theorem built_concat (edits : List TreeEdit) (e : TreeEdit) :
    built (edits ++ [e]) = (built edits).edit e :=
  List.foldl_concat ..

/-- A call adds the mark of what it inserts, if it inserts anything. -/
theorem marks_edit (t : MarkupTree) (e : TreeEdit) :
    (t.edit e).marks = t.marks ++
      e.insertion?.toList.map fun x => (x.node.elementId?, x.parent.filter (· < t.size)) := by
  cases e with
  | insertRoot n => exact marks_push t none n
  | insertChild parent n => exact marks_push t (some parent) n
  | modify i f => exact (marks_modify t i f).trans (List.append_nil _).symm

/-- The insertions decide what is kept beside the nodes. A parent that is named is one only if it
was inserted before. -/
theorem marks_built (edits : List TreeEdit) :
    (built edits).marks = (insertions edits).mapIdx fun i x =>
      (x.node.elementId?, x.parent.filter (· < i)) := by
  induction edits using List.reverseRecOn with
  | nil => rfl
  | append_singleton edits e ih =>
    have hsize : (built edits).size = (insertions edits).length := by
      rw [← length_marks, ih, List.length_mapIdx]
    rw [built_concat, marks_edit, ih, TreeEdit.insertions_concat, List.mapIdx_append, hsize]
    cases e.insertion? with
    | none => rfl
    | some x => simp

/-- There is one node for each insertion. -/
theorem size_built (edits : List TreeEdit) : (built edits).size = (insertions edits).length := by
  rw [← length_marks, marks_built, List.length_mapIdx]

/-- An element is found at the first node that was inserted for it. -/
theorem find?_built (edits : List TreeEdit) (id : String) :
    (built edits).find? id = (insertions edits).findIdx? fun x => x.node.elementId? == some id := by
  rw [find?_eq_marks, marks_built, List.mapIdx_eq_zipIdx_map, List.findIdx?_map]
  -- The numbers stand beside the insertions on the left, and the search passes over them.
  conv_rhs => rw [← List.zipIdx_map_fst 0 (insertions edits), List.findIdx?_map]
  rfl

/-- The root is the one that was inserted last. -/
theorem root_built (edits : List TreeEdit) :
    (built edits).root = Insertion.lastRoot? (insertions edits) := by
  induction edits using List.reverseRecOn with
  | nil => rfl
  | append_singleton edits e ih =>
    rw [built_concat, TreeEdit.insertions_concat, Insertion.lastRoot?, List.zipIdx_append,
      List.filter_append]
    cases e with
    | insertRoot n => simp [edit, insertRoot, TreeEdit.insertion?, size_built]
    | insertChild parent n =>
      simp [edit, insertChild, TreeEdit.insertion?, push, ih, Insertion.lastRoot?]
    | modify i f => simp [edit, root_modify, TreeEdit.insertion?, ih, Insertion.lastRoot?]

end Built

end MarkupTree

end Sitework
