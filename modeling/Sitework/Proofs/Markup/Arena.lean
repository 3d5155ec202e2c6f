import Mathlib.Logic.Function.Iterate
import Sitework.Markup.Arena
import Sitework.Proofs.Markup.Edits
import Sitework.Proofs.OrderedMap

/-!
# Arenas and the trees that they represent

The maps of an arena are changed one by one, and nothing but the insertions keeps them in agreement.
After the same calls an arena answers what the tree answers, where parents and children agree by
construction. The walk with a stack visits the nodes in the order of the recursive walk: in any
arena, what lies on the stack below the nodes of a recursive walk stays there until they are done.

In one thing arena and tree differ. A node is stored before its parent is looked up. If the number
that is named as the parent is the one that the node is about to be given, then the node becomes its
own parent and child, where the tree leaves it without a parent. No other way from parent to parent
comes back to a node, and the walk from the root comes to none of these nodes.
-/

namespace Sitework

namespace MarkupArena

variable {a : MarkupArena} {t : MarkupTree}

section Walk

/-- The recursive walk through some nodes: one after the other, and after each the nodes below it
in the same way. -/
inductive DepthFirst (a : MarkupArena) : List Nat → List Nat → Prop
  /-- There are no nodes. -/
  | nil : a.DepthFirst [] []
  /-- The nodes below the first one come between it and the others. -/
  | cons {i : Nat} {is inner rest : List Nat} (hinner : a.DepthFirst (a.children i) inner)
    (hrest : a.DepthFirst is rest) : a.DepthFirst (i :: is) (i :: (inner ++ rest))

/-- A walk that has ended stays as it is. -/
theorem step_empty (a : MarkupArena) (visited : Array Nat) :
    a.step ⟨#[], visited⟩ = ⟨#[], visited⟩ := rfl

/-- A step takes the node on top of the stack and puts its children in its place. -/
theorem step_push (a : MarkupArena) (stack visited : Array Nat) (i : Nat) :
    a.step ⟨stack.push i, visited⟩ = ⟨stack ++ (a.children i).reverse, visited.push i⟩ := by
  rw [step, Array.back?_push, Array.pop_push]

/-- Nodes on top of the stack, the first one last, are visited as the recursive walk does. That
takes one step for each of the visited nodes and leaves what is below on the stack. -/
theorem DepthFirst.iterate_step {is nodes : List Nat} (h : a.DepthFirst is nodes)
    (stack visited : Array Nat) :
    a.step^[nodes.length] ⟨stack ++ is.reverse, visited⟩ = ⟨stack, visited ++ nodes⟩ := by
  -- The stack below is arbitrary, so that the siblings still to come may lie on it.
  induction h generalizing stack visited with
  | nil => simp
  | @cons i is inner rest _ _ ihinner ihrest =>
    have htop : stack ++ (i :: is).reverse = (stack ++ is.reverse).push i := by
      apply Array.ext'
      simp
    have hvisited : visited.push i ++ inner ++ rest = visited ++ i :: (inner ++ rest) := by
      apply Array.ext'
      simp
    have hlength : (i :: (inner ++ rest)).length = rest.length + (inner.length + 1) := by
      simp only [List.length_cons, List.length_append]
      omega
    calc a.step^[(i :: (inner ++ rest)).length] ⟨stack ++ (i :: is).reverse, visited⟩
        = a.step^[rest.length] (a.step^[inner.length] (a.step ⟨_, visited⟩)) := by
          rw [hlength, Function.iterate_add_apply, Function.iterate_succ_apply, htop]
      _ = a.step^[rest.length] ⟨stack ++ is.reverse, visited.push i ++ inner⟩ := by
          rw [step_push, ihinner]
      _ = ⟨stack, visited ++ i :: (inner ++ rest)⟩ := by rw [ihrest, hvisited]

/-- The walk from the root ends, and it has come to some nodes then, one with each step. -/
def Visits (a : MarkupArena) (nodes : List Nat) : Prop :=
  a.step^[nodes.length] a.start = ⟨#[], nodes.toArray⟩

/-- Where the recursive walk from the root ends, the walk with a stack ends with the same nodes. -/
theorem DepthFirst.visits {nodes : List Nat} (h : a.DepthFirst a.root.toList nodes) :
    a.Visits nodes := by
  have hstart : a.start = ⟨(#[] : Array Nat) ++ a.root.toList.reverse, #[]⟩ := by
    rw [start]
    cases a.root <;> rfl
  rw [Visits, hstart, h.iterate_step]
  simp

/-- The walk ends with one list of nodes. -/
theorem Visits.eq {nodes others : List Nat} (h : a.Visits nodes) (hothers : a.Visits others) :
    nodes = others := by
  wlog hle : nodes.length ≤ others.length generalizing nodes others
  · exact (this hothers h (Nat.le_of_not_le hle)).symm
  -- After the last node of the shorter list, further steps change nothing.
  have hend : a.step^[others.length] a.start = ⟨#[], nodes.toArray⟩ := by
    rw [← Nat.sub_add_cancel hle, Function.iterate_add_apply, h,
      Function.iterate_fixed (step_empty a _)]
  have hsame : nodes.toArray = others.toArray := congrArg Walk.visited (hend.symm.trans hothers)
  simpa using hsame

end Walk

/-- The link of a node to itself, if it is its own parent. -/
def loop (a : MarkupArena) (i : Nat) : List Nat :=
  if a.parent? i = some i then [i] else []

theorem loop_of_ne {i : Nat} (h : a.parent? i ≠ some i) : a.loop i = [] :=
  if_neg h

theorem loop_add (a : MarkupArena) (n : MarkupNode) (i : Nat) : (a.add n).1.loop i = a.loop i :=
  rfl

/-- A node that is linked gets a link to itself if it is linked below itself. -/
theorem loop_link_of_some {parent i : Nat} {siblings : List Nat}
    (h : a.childLists.get? parent = some siblings) (j : Nat) :
    (a.link parent i).loop j = if j = i then if parent = i then [i] else [] else a.loop j := by
  rw [loop, parent?_link_of_some h]
  split
  · next hj => subst hj; simp
  · rfl

/-- An arena that answers what a tree answers, except that nodes may be their own parents, and the
first ones of their children. In the tree they have no parents. -/
structure Represents (a : MarkupArena) (t : MarkupTree) : Prop where
  size : a.size = t.size
  get? : ∀ i, a.get? i = t.get? i
  parent? : ∀ i, t.parent? i = (a.parent? i).filter (· ≠ i)
  /-- Every node has a list of children, if only an empty one. -/
  childLists : ∀ i, a.childLists.get? i =
    if i < t.size then some (a.loop i ++ t.children i) else none
  find? : ∀ id, a.find? id = t.find? id
  root : a.root = t.root
  /-- Only nodes are their own parents. -/
  lt_size : ∀ i, a.parent? i = some i → i < t.size
  /-- The root is a node, and not its own parent. -/
  root_lt : ∀ r ∈ t.root, r < t.size ∧ a.parent? r ≠ some r

namespace Represents

theorem empty : MarkupArena.empty.Represents MarkupTree.empty where
  size := rfl
  get? _ := rfl
  parent? _ := rfl
  childLists _ := rfl
  find? _ := Array.findIdx?_empty.symm
  root := rfl
  lt_size _ h := nomatch h
  root_lt _ h := nomatch h

/-- The tree has the parents of the nodes that are not their own. -/
theorem parent?_eq_some_iff (h : a.Represents t) {c p : Nat} :
    t.parent? c = some p ↔ a.parent? c = some p ∧ p ≠ c := by
  rw [h.parent?, Option.filter_eq_some_iff, decide_eq_true_eq]

/-- A number that is no node has no parent. -/
theorem parent?_of_size_le (h : a.Represents t) {i : Nat} (hi : t.size ≤ i) :
    a.parent? i = none := by
  rw [Option.eq_none_iff_forall_ne_some]
  intro p hp
  by_cases hself : p = i
  · exact hi.not_gt (h.lt_size i (hself ▸ hp))
  · exact hi.not_gt (MarkupTree.lt_of_parent? (h.parent?_eq_some_iff.2 ⟨hp, hself⟩)).2

theorem loop_of_size_le (h : a.Represents t) {i : Nat} (hi : t.size ≤ i) : a.loop i = [] :=
  loop_of_ne fun hself => hi.not_gt (h.lt_size i hself)

/-- The children of a node are those in the tree, after the node itself if it is its own parent. -/
theorem children (h : a.Represents t) (i : Nat) : a.children i = a.loop i ++ t.children i := by
  rw [MarkupArena.children, h.childLists]
  split
  · rfl
  · next hi =>
    have hle := Nat.le_of_not_lt hi
    rw [h.loop_of_size_le hle, MarkupTree.children_of_size_le hle]
    rfl

/-- A stored node is one without a parent. -/
theorem add (h : a.Represents t) (n : MarkupNode) : (a.add n).1.Represents (t.push none n) where
  size := by
    rw [MarkupTree.size_push, ← h.size]
    exact Array.size_push n
  get? i := by
    rw [MarkupTree.get?_push, ← h.get?, ← h.size]
    exact Array.getElem?_push
  parent? i := by
    rw [MarkupTree.parent?_push_none]
    exact h.parent? i
  childLists i := by
    rw [MarkupTree.children_push_none, MarkupTree.size_push, loop_add]
    change (a.childLists.insert a.size []).get? i = _
    rw [NodeMap.get?_insert, h.childLists, h.size]
    by_cases hi : i = t.size
    · rw [if_pos hi, if_pos (by omega), h.loop_of_size_le hi.ge,
        MarkupTree.children_of_size_le hi.ge, List.append_nil]
    · rw [if_neg hi]
      exact if_congr (by omega) rfl rfl
  find? id := by
    rw [MarkupTree.find?_push, ← h.find?, ← h.size]
    exact get?_register a.elements n a.size id
  root := h.root
  lt_size i hi := by
    rw [MarkupTree.size_push]
    exact (h.lt_size i hi).trans (Nat.lt_succ_self _)
  root_lt r hr := by
    rw [MarkupTree.size_push]
    exact ⟨(h.root_lt r hr).1.trans (Nat.lt_succ_self _), (h.root_lt r hr).2⟩

/-- A root that is inserted becomes the root of both. -/
theorem insertRoot (h : a.Represents t) (n : MarkupNode) :
    (a.insertRoot n).1.Represents (t.insertRoot n).1 :=
  { h.add n with
    root := congrArg some h.size
    root_lt := by
      rintro r ⟨⟩
      have hnone : (a.add n).1.parent? t.size = none := h.parent?_of_size_le (Nat.le_refl _)
      refine ⟨?_, fun hself => nomatch hnone.symm.trans hself⟩
      exact (Nat.lt_succ_self _).trans_eq (t.size_push none n).symm }

/-- Once a node is stored, the numbers below which it can be inserted are its own and the earlier
ones. -/
theorem childLists_add (h : a.Represents t) (n : MarkupNode) (i : Nat) :
    (a.add n).1.childLists.get? i =
      if i ≤ t.size then some (a.loop i ++ t.children i) else none := by
  rw [(h.add n).childLists, MarkupTree.size_push, MarkupTree.children_push_none]
  exact if_congr Nat.lt_succ_iff rfl rfl

/-- Below a number that is no node, the node stays as it was stored. -/
theorem insertChild_of_size_lt (h : a.Represents t) {parent : Nat} (hparent : t.size < parent)
    (n : MarkupNode) : (a.insertChild parent n).1.Represents (t.insertChild parent n).1 := by
  have hnone : (a.add n).1.childLists.get? parent = none := by
    rw [h.childLists_add, if_neg (by omega)]
  rw [insertChild_fst, link_of_none hnone]
  change (a.add n).1.Represents (t.push (some parent) n)
  rw [MarkupTree.push_of_size_le hparent.le]
  exact h.add n

section InsertChild

variable {parent : Nat} (hparent : parent ≤ t.size) (n : MarkupNode)

include hparent

/-- Below an earlier node or the number that it is given, the new node gets its parent. -/
theorem parent?_insertChild (h : a.Represents t) (i : Nat) :
    (a.insertChild parent n).1.parent? i = if i = t.size then some parent else a.parent? i := by
  rw [insertChild_fst, h.size]
  exact parent?_link_of_some ((h.childLists_add n parent).trans (if_pos hparent)) i

/-- It comes after the other children of an earlier node. Below the number that it is given, it is
the only child, and in the tree there is none. -/
theorem childLists_insertChild (h : a.Represents t) (i : Nat) :
    (a.insertChild parent n).1.childLists.get? i =
      if i < t.size + 1 then
        some ((a.insertChild parent n).1.loop i ++ (t.push (some parent) n).children i)
      else none := by
  have hsome := (h.childLists_add n parent).trans (if_pos hparent)
  rw [insertChild_fst, h.size, childLists_link_of_some hsome, h.childLists_add,
    loop_link_of_some hsome, loop_add]
  rcases hparent.eq_or_lt with rfl | hlt
  · rw [MarkupTree.push_of_size_le hparent, MarkupTree.children_push_none]
    by_cases hi : i = t.size
    · simp [hi, h.loop_of_size_le, MarkupTree.children_of_size_le]
    · rw [if_neg hi, if_neg hi]
      exact if_congr Nat.lt_succ_iff.symm rfl rfl
  · have hloop : (if i = t.size then if parent = t.size then [t.size] else [] else a.loop i) =
        a.loop i := by
      rw [if_neg hlt.ne]
      split
      · next hi => exact (h.loop_of_size_le hi.ge).symm
      · rfl
    rw [MarkupTree.children_push hlt, hloop]
    by_cases hi : i = parent
    · rw [if_pos hi, if_pos (by omega), if_pos hi, hi, List.append_assoc]
    · rw [if_neg hi, if_neg hi, List.append_nil]
      exact if_congr Nat.lt_succ_iff.symm rfl rfl

/-- Below either, the arena keeps representing the tree. -/
theorem insertChild_of_le_size (h : a.Represents t) :
    (a.insertChild parent n).1.Represents (t.insertChild parent n).1 := by
  have hadd := h.add n
  change (a.insertChild parent n).1.Represents (t.push (some parent) n)
  constructor
  case size =>
    rw [insertChild_fst, size_link, hadd.size, MarkupTree.size_push, MarkupTree.size_push]
  case get? =>
    intro i
    rw [insertChild_fst, get?_link, hadd.get?, MarkupTree.get?_push, MarkupTree.get?_push]
  case parent? =>
    intro i
    rw [h.parent?_insertChild hparent, MarkupTree.parent?_push]
    split
    · next hi => simp only [hi, Option.filter_some, decide_eq_true_eq, hparent.lt_iff_ne]
    · exact h.parent? i
  case childLists =>
    intro i
    rw [h.childLists_insertChild hparent, MarkupTree.size_push]
  case find? =>
    intro id
    rw [insertChild_fst, find?_link, hadd.find?, MarkupTree.find?_push, MarkupTree.find?_push]
  case root =>
    rw [insertChild_fst, root_link, hadd.root]
    rfl
  case lt_size =>
    intro i hi
    rw [h.parent?_insertChild hparent] at hi
    rw [MarkupTree.size_push]
    split at hi
    · omega
    · exact (h.lt_size i hi).trans (Nat.lt_succ_self _)
  case root_lt =>
    intro r hr
    obtain ⟨hlt, hself⟩ := h.root_lt r hr
    rw [h.parent?_insertChild hparent, if_neg hlt.ne, MarkupTree.size_push]
    exact ⟨hlt.trans (Nat.lt_succ_self _), hself⟩

end InsertChild

/-- Below whatever number a node is inserted, the arena keeps representing the tree. -/
theorem insertChild (h : a.Represents t) (parent : Nat) (n : MarkupNode) :
    (a.insertChild parent n).1.Represents (t.insertChild parent n).1 := by
  rcases Nat.lt_or_ge t.size parent with hlt | hle
  · exact h.insertChild_of_size_lt hlt n
  · exact h.insertChild_of_le_size hle n

/-- A change in place concerns the node alone. -/
theorem modify (h : a.Represents t) (i : Nat) (f : MarkupNode → MarkupNode) :
    (a.modify i f).Represents (t.modify i f) where
  size := (Array.size_modify ..).trans (h.size.trans (t.size_modify i f).symm)
  get? j := by
    rw [MarkupTree.get?_modify, ← h.get?]
    exact Array.getElem?_modify.trans (if_congr eq_comm rfl rfl)
  parent? j := by
    rw [MarkupTree.parent?_eq_marks, MarkupTree.marks_modify, ← MarkupTree.parent?_eq_marks]
    exact h.parent? j
  childLists j := by
    rw [MarkupTree.size_modify, MarkupTree.children_congr (t.marks_modify i f)]
    exact h.childLists j
  find? id := by
    rw [MarkupTree.find?_eq_marks, MarkupTree.marks_modify, ← MarkupTree.find?_eq_marks]
    exact h.find? id
  root := h.root.trans (t.root_modify i f).symm
  lt_size j hj := (h.lt_size j hj).trans_eq (t.size_modify i f).symm
  root_lt r hr := by
    rw [t.root_modify] at hr
    rw [t.size_modify]
    exact h.root_lt r hr

/-- The recursive walk from nodes that are not their own parents lists what is below them in the
tree. -/
theorem depthFirst_flatMap (h : a.Represents t) (is : List Nat)
    (his : ∀ i ∈ is, a.parent? i ≠ some i) : a.DepthFirst is (is.flatMap t.below) := by
  -- A walk through some nodes is known once the walks through their children are.
  have hwalk (is : List Nat)
      (hbelow : ∀ i ∈ is, a.DepthFirst (a.children i) ((t.children i).flatMap t.below)) :
      a.DepthFirst is (is.flatMap t.below) := by
    induction is with
    | nil => exact .nil
    | cons i is ih =>
      rw [List.forall_mem_cons] at hbelow
      rw [List.flatMap_cons, MarkupTree.below_eq]
      exact .cons hbelow.1 (ih hbelow.2)
  refine hwalk is fun i hi => ?_
  replace his := his i hi
  clear hi
  induction i using t.induction_children with
  | step i ih =>
    rw [h.children, loop_of_ne his, List.nil_append]
    refine hwalk _ fun c hc => ih c hc fun hself => ?_
    -- A child in the tree has another node as its parent.
    obtain ⟨hparent, hne⟩ := h.parent?_eq_some_iff.1 (MarkupTree.mem_children.1 hc)
    exact hne (Option.some.inj (hparent.symm.trans hself))

/-- The recursive walk from the root lists the nodes of the tree in order. -/
theorem depthFirst_preOrder (h : a.Represents t) : a.DepthFirst a.root.toList t.preOrder := by
  rw [h.root]
  exact h.depthFirst_flatMap _ fun r hr => (h.root_lt r (Option.mem_toList.1 hr)).2

end Represents

/-- The arena after a call. -/
def edit (a : MarkupArena) : TreeEdit → MarkupArena
  | .insertRoot n => (a.insertRoot n).1
  | .insertChild parent n => (a.insertChild parent n).1
  | .modify i f => a.modify i f

/-- The arena that calls build. -/
def built (edits : List TreeEdit) : MarkupArena :=
  edits.foldl edit empty

theorem built_concat (edits : List TreeEdit) (e : TreeEdit) :
    built (edits ++ [e]) = (built edits).edit e :=
  List.foldl_concat ..

/-- So each call keeps the arena representing the tree. -/
theorem Represents.edit (h : a.Represents t) (e : TreeEdit) : (a.edit e).Represents (t.edit e) := by
  cases e with
  | insertRoot n => exact h.insertRoot n
  | insertChild parent n => exact h.insertChild parent n
  | modify i f => exact h.modify i f

/-- The same calls build an arena and a tree that it represents. -/
theorem represents_built (edits : List TreeEdit) :
    (built edits).Represents (MarkupTree.built edits) := by
  induction edits using List.reverseRecOn with
  | nil => exact .empty
  | append_singleton edits e ih =>
    rw [built_concat, MarkupTree.built_concat]
    exact ih.edit e

/-- A call gives the node that it inserts the parent that it names, if that is a node by then. Other
nodes keep their parents. -/
theorem Represents.parent?_edit (h : a.Represents t) (e : TreeEdit) (i : Nat) :
    (a.edit e).parent? i =
      if i = t.size then (e.insertion?.bind (·.parent)).filter (· ≤ t.size) else a.parent? i := by
  have hnone : a.parent? t.size = none := h.parent?_of_size_le (Nat.le_refl _)
  have hsame : a.parent? i = if i = t.size then none else a.parent? i := by
    split
    · next hi => rw [hi, hnone]
    · rfl
  cases e with
  | insertRoot n => exact hsame
  | modify j f => exact hsame
  | insertChild parent n =>
    rw [MarkupArena.edit]
    by_cases hparent : parent ≤ t.size
    · have hnamed : (some parent).filter (· ≤ t.size) = some parent :=
        Option.filter_some_pos (decide_eq_true hparent)
      rw [h.parent?_insertChild hparent]
      exact if_congr Iff.rfl hnamed.symm rfl
    · have hunknown := (h.childLists_add n parent).trans (if_neg hparent)
      rw [insertChild_fst, h.size, link_of_none hunknown]
      refine hsame.trans (if_congr Iff.rfl ?_ rfl)
      exact (Option.filter_some_neg (by simpa using hparent)).symm

/-- A node has the parent that was named for it, if that was inserted before or is the node
itself. -/
theorem parent?_built (edits : List TreeEdit) (i : Nat) :
    (built edits).parent? i = (TreeEdit.named? edits i).filter (· ≤ i) := by
  induction edits using List.reverseRecOn with
  | nil => rfl
  | append_singleton edits e ih =>
    rw [built_concat, (represents_built edits).parent?_edit, TreeEdit.named?_concat,
      MarkupTree.size_built, ih]
    split
    · next hi => rw [hi]
    · rfl

/-- One comes to a node by going from another one to its parent any number of times. -/
def LeadsTo (a : MarkupArena) : Nat → Nat → Prop :=
  Relation.ReflTransGen fun c p => a.parent? c = some p

/-- Parents lead where they lead in the tree, since a node that is its own parent leads nowhere
else. -/
theorem Represents.leadsTo_iff (h : a.Represents t) {i j : Nat} :
    a.LeadsTo j i ↔ t.LeadsTo j i := by
  constructor
  · intro hlead
    induction hlead using Relation.ReflTransGen.head_induction_on with
    | refl => exact .refl
    | @head c p hparent _ ih =>
      by_cases hself : p = c
      · exact hself ▸ ih
      · exact .head (h.parent?_eq_some_iff.2 ⟨hparent, hself⟩) ih
  · intro hlead
    exact Relation.ReflTransGen.mono (fun c p hparent => (h.parent?_eq_some_iff.1 hparent).1) _ _
      hlead

/-- A way from parent to parent that comes back to a node does so at once. -/
theorem Represents.transGen_self_iff (h : a.Represents t) {i : Nat} :
    Relation.TransGen (fun c p => a.parent? c = some p) i i ↔ a.parent? i = some i := by
  refine ⟨fun hcycle => ?_, fun hself => .single hself⟩
  obtain ⟨p, hparent, hback⟩ := Relation.TransGen.head'_iff.1 hcycle
  by_contra hself
  have hne : p ≠ i := fun hp => hself (hp ▸ hparent)
  -- The other parent was inserted before, and numbers do not grow on the way.
  have hlt : p < i := (MarkupTree.lt_of_parent? (h.parent?_eq_some_iff.2 ⟨hparent, hne⟩)).1
  exact hlt.not_ge (h.leadsTo_iff.1 hback).le

/-- The maps of an arena agree with each other and with the calls that built it. -/
structure IsConsistent (a : MarkupArena) (edits : List TreeEdit) : Prop where
  /-- The next call returns the number of insertions before it. -/
  next : ∀ n parent, (a.insertRoot n).2 = (TreeEdit.insertions edits).length ∧
    (a.insertChild parent n).2 = (TreeEdit.insertions edits).length
  /-- A node has the parent that was named for it, if that was inserted before or is the node
  itself. -/
  named : ∀ i, a.parent? i = (TreeEdit.named? edits i).filter (· ≤ i)
  /-- A node is among the children of its parent, and of no other node. -/
  linked : ∀ p c, a.parent? c = some p ↔ c ∈ a.children p
  /-- No node is listed twice among the children of another. -/
  once : ∀ p, (a.children p).Nodup
  /-- A way from parent to parent comes back to a node only where the node was named as its own
  parent. -/
  cycle : ∀ i, Relation.TransGen (fun c p => a.parent? c = some p) i i ↔
    TreeEdit.named? edits i = some i
  /-- An element is found at the first node that stood for it when it was inserted. -/
  first : ∀ id, a.find? id =
    (TreeEdit.insertions edits).findIdx? fun x => x.node.elementId? == some id
  /-- The root is the one that was inserted last. -/
  root : a.root = Insertion.lastRoot? (TreeEdit.insertions edits)
  /-- The walk ends. It lists the nodes from which parents lead to the root, each once and in the
  order of the recursive walk. -/
  walk : ∃ nodes, a.Visits nodes ∧ a.DepthFirst a.root.toList nodes ∧ nodes.Nodup ∧
    ∀ i, i ∈ nodes ↔ ∃ r, a.root = some r ∧ a.LeadsTo i r

section Agreement

variable (h : a.Represents t)

include h

/-- The children are the nodes that have the node as their parent. -/
theorem Represents.mem_children_iff {p c : Nat} : c ∈ a.children p ↔ a.parent? c = some p := by
  rw [h.children, List.mem_append, MarkupTree.mem_children, h.parent?_eq_some_iff, loop]
  by_cases hself : p = c
  · subst hself
    split <;> simp [*]
  · split <;> simp [hself, Ne.symm hself]

/-- No child is listed twice, since none of those in the tree is the node itself. -/
theorem Represents.nodup_children (p : Nat) : (a.children p).Nodup := by
  have hnot : p ∉ t.children p := fun hp => absurd (MarkupTree.lt_of_parent?
    (MarkupTree.mem_children.1 hp)).1 (Nat.lt_irrefl p)
  have hnodup := MarkupTree.nodup_children t p
  rw [h.children, loop]
  split
  · exact hnodup.cons hnot
  · exact hnodup

end Agreement

/-- What calls build is consistent. -/
theorem isConsistent_of_built (edits : List TreeEdit) : (built edits).IsConsistent edits where
  next _ _ := by
    rw [← MarkupTree.size_built, ← (represents_built edits).size]
    exact ⟨rfl, rfl⟩
  named := parent?_built edits
  linked _ _ := (represents_built edits).mem_children_iff.symm
  once := (represents_built edits).nodup_children
  cycle i := by
    rw [(represents_built edits).transGen_self_iff, parent?_built, Option.filter_eq_some_iff]
    simp
  first id := by rw [(represents_built edits).find?, MarkupTree.find?_built]
  root := by rw [(represents_built edits).root, MarkupTree.root_built]
  walk := by
    have h := represents_built edits
    have hwalk := h.depthFirst_preOrder
    refine ⟨_, hwalk.visits, hwalk, MarkupTree.nodup_preOrder _, fun i => ?_⟩
    simp only [MarkupTree.mem_preOrder, h.root, h.leadsTo_iff]

/-- After any calls, the maps of an arena agree with each other and with the calls. The arena
answers what the tree answers that the same calls build, and its walk ends with the nodes of the
tree. No way from parent to parent comes back to a node exactly if no call names, as the parent, the
number that it is about to give. -/
theorem isConsistent_built (edits : List TreeEdit) :
    (built edits).IsConsistent edits ∧ (built edits).Represents (MarkupTree.built edits) ∧
      (∀ nodes, (built edits).Visits nodes ↔ nodes = (MarkupTree.built edits).preOrder) ∧
      ((∀ i, ¬ Relation.TransGen (fun c p => (built edits).parent? c = some p) i i) ↔
        TreeEdit.NamesOthers edits) := by
  have hconsistent := isConsistent_of_built edits
  have hvisits := (represents_built edits).depthFirst_preOrder.visits
  refine ⟨hconsistent, represents_built edits, fun nodes => ⟨(·.eq hvisits), ?_⟩, ?_⟩
  · rintro rfl
    exact hvisits
  · rw [TreeEdit.namesOthers_iff]
    exact forall_congr' fun i => not_congr (hconsistent.cycle i)

/-- Calls that insert below a number that no node has yet, rename a node in place, replace the root,
insert a second node for an element, and insert a node below its own number. -/
def reworked : List TreeEdit :=
  [.insertRoot .root, .insertChild 0 (.new "section" (.element "hero" "section")),
    .insertChild 9 (.new "p" (.element "note" "text")), .insertChild 2 (.wrapper "span"),
    .modify 1 fun n => { n with role := .element "banner" "section" }, .insertRoot .root,
    .insertChild 4 (.new "section" (.element "banner" "section")),
    .insertChild 4 (.new "section" (.element "hero" "section")), .insertChild 5 (.wrapper "div"),
    .insertChild 8 (.wrapper "div")]

theorem isConsistent_built_reworked :
    (built reworked).IsConsistent reworked ∧
      (built reworked).Represents (MarkupTree.built reworked) ∧
      (built reworked).Visits [4, 5, 7, 6] ∧ (built reworked).children 2 = [3] ∧
      (built reworked).parent? 2 = none ∧ (built reworked).find? "hero" = some 1 ∧
      (built reworked).find? "banner" = some 5 ∧ (built reworked).parent? 8 = some 8 ∧
      (built reworked).children 8 = [8] ∧ ¬ TreeEdit.NamesOthers reworked := by
  obtain ⟨hconsistent, hrepresents, hvisits, hacyclic⟩ := isConsistent_built reworked
  have hself : (built reworked).parent? 8 = some 8 := by decide
  exact ⟨hconsistent, hrepresents, (hvisits _).2 (by decide +kernel), by decide, by decide,
    by decide, by decide, hself, by decide, fun hnames => hacyclic.2 hnames 8 (.single hself)⟩

end MarkupArena

end Sitework
