import Sitework.Proofs.Compilation.Represented
import Sitework.Proofs.Markup.Walk
import Sitework.Proofs.Outcome

/-!
# Which elements are extracted

Extracting goes from the root to its children, and on from each element to its children, and keeps
those that stand for elements. So it comes to the element nodes that are linked to the root by
element nodes only, in the order of the tree. An element below a helper that stands for no element
is lost, although it is one of the elements of the tree.
-/

namespace Sitework

namespace Extraction

open Compilation Element

variable {t : MarkupTree} {i p : Nat}

/-- Whether a node is below the root and the nodes between the two all stand for elements. -/
def isLinked (t : MarkupTree) (i : Nat) : Bool :=
  match _h : t.parent? i with
  | none => false
  | some p => t.root == some p || (isElement t p && isLinked t p)
termination_by i
decreasing_by exact (MarkupTree.lt_of_parent? _h).1

/-- Whether a node stands for an element that is linked to the root. -/
def isShown (t : MarkupTree) (i : Nat) : Bool :=
  isElement t i && isLinked t i

/-- A node is linked if its parent is the root or shown. -/
theorem isLinked_of_parent? (h : t.parent? i = some p) :
    isLinked t i = (t.root == some p || isShown t p) := by
  rw [isLinked]
  split
  · next hnone =>
    rw [h] at hnone
    cases hnone
  · next q hq =>
    rw [h] at hq
    cases hq
    rfl

/-- What is linked to the root is below it. -/
theorem exists_root_lt (h : isLinked t i = true) : ∃ root, t.root = some root ∧ root < i := by
  fun_induction isLinked t i with
  | case1 => cases h
  | case2 i p hparent ih =>
    have hlt := (MarkupTree.lt_of_parent? hparent).1
    rw [Bool.or_eq_true, beq_iff_eq, Bool.and_eq_true] at h
    rcases h with hroot | ⟨-, hlinked⟩
    · exact ⟨p, hroot, hlt⟩
    · obtain ⟨root, hroot, hless⟩ := ih hlinked
      exact ⟨root, hroot, hless.trans hlt⟩

/-- The element nodes at and below a node that are linked to the root, in the order of the tree. -/
def shownBelow (t : MarkupTree) (i : Nat) : List Nat :=
  (t.below i).filter (isShown t)

/-- Below a node are shown the node itself and what is shown below its children. -/
theorem shownBelow_eq (t : MarkupTree) (i : Nat) : shownBelow t i =
    (if isShown t i then [i] else []) ++ (t.children i).flatMap (shownBelow t) := by
  rw [shownBelow, MarkupTree.below_eq, List.filter_cons, List.filter_flatMap]
  split <;> rfl

/-- Below a node under the root that is not shown nothing is shown. -/
theorem shownBelow_eq_nil {root : Nat} (hroot : t.root = some root) (hlt : root < i)
    (h : isShown t i = false) : shownBelow t i = [] := by
  induction i using t.induction_children with
  | step i ih =>
    rw [shownBelow_eq, h, List.flatMap_eq_nil_iff.2 fun c hc => ?_]
    · rfl
    · have hparent := MarkupTree.mem_children.1 hc
      have hlinked : isLinked t c = false := by
        rw [isLinked_of_parent? hparent, hroot, h, Bool.or_false, beq_eq_false_iff_ne]
        exact fun heq => hlt.ne (Option.some_inj.1 heq)
      refine ih c hc (hlt.trans (MarkupTree.lt_of_parent? hparent).1) ?_
      rw [isShown, hlinked, Bool.and_false]

/-- If a node is linked to the root, then either it is shown or nothing below it is. -/
theorem shownBelow_of_isLinked (h : isLinked t i = true) : shownBelow t i =
    if isElement t i then i :: (t.children i).flatMap (shownBelow t) else [] := by
  have hshown : isShown t i = isElement t i := by
    rw [isShown, h, Bool.and_true]
  split
  · next helement => rw [shownBelow_eq, hshown, if_pos helement, List.singleton_append]
  · next hother =>
    obtain ⟨root, hroot, hlt⟩ := exists_root_lt h
    exact shownBelow_eq_nil hroot hlt (hshown.trans (Bool.eq_false_iff.2 hother))

/-- What is extracted from a node has its name, and nested in it what is extracted from those of its
children that stand for elements. -/
theorem nameAt_of_extract {e : Element} (h : extract t i = .ok e) : t.nameAt i = some e.id ∧
    ((t.children i).filter (isElement t)).mapM (extract t) = .ok e.children := by
  rw [extract, MarkupTree.fold_eq, elementOf] at h
  split at h
  · cases h
  · next n hget =>
    split at h
    · next id name hrole =>
      obtain ⟨kind, -, h⟩ := exists_of_bind_eq_ok h
      obtain ⟨nested, hnested, h⟩ := exists_of_bind_eq_ok h
      obtain rfl := Except.ok.inj h
      rw [List.filter_map, List.mapM_map] at hnested
      refine ⟨?_, hnested⟩
      rw [MarkupTree.nameAt, hget, Option.bind_some, MarkupNode.elementId?, hrole]
    · cases h

/-- If the elements nested in each one of a row have the names that are shown below its node, then
the row has the names that are shown at and below its nodes. -/
theorem names_of_mapM {is : List Nat} {es : List Element}
    (hnested : ∀ c ∈ is, ∀ e, isShown t c = true → extract t c = .ok e →
      names e.children = ((t.children c).flatMap (shownBelow t)).filterMap t.nameAt)
    (hlinked : ∀ c ∈ is, isLinked t c = true)
    (h : (is.filter (isElement t)).mapM (extract t) = .ok es) :
    names es = (is.flatMap (shownBelow t)).filterMap t.nameAt := by
  induction is generalizing es with
  | nil =>
    obtain rfl := Except.ok.inj h
    rfl
  | cons c is ih =>
    rw [List.forall_mem_cons] at hnested hlinked
    rw [List.flatMap_cons, List.filterMap_append, shownBelow_of_isLinked hlinked.1]
    cases helement : isElement t c with
    | false =>
      -- nothing is extracted from a helper, and nothing below it is linked to the root
      rw [List.filter_cons_of_neg (Bool.eq_false_iff.1 helement)] at h
      exact ih hnested.2 hlinked.2 h
    | true =>
      rw [List.filter_cons_of_pos helement, List.mapM_cons] at h
      obtain ⟨e, hextract, h⟩ := exists_of_bind_eq_ok h
      obtain ⟨rest, hrest, h⟩ := exists_of_bind_eq_ok h
      obtain rfl := Except.ok.inj h
      have hshown : isShown t c = true := by
        rw [isShown, helement, hlinked.1, Bool.and_self]
      rw [names_cons, if_pos rfl, List.filterMap_cons, (nameAt_of_extract hextract).1,
        hnested.1 e hshown hextract, ih hnested.2 hlinked.2 hrest, List.cons_append]

/-- Nested in what is extracted from a node that is shown are the elements that are shown below. -/
theorem names_children_of_extract {e : Element} (hshown : isShown t i = true)
    (h : extract t i = .ok e) :
    names e.children = ((t.children i).flatMap (shownBelow t)).filterMap t.nameAt := by
  induction i using t.induction_children generalizing e with
  | step i ih =>
    refine names_of_mapM (fun c hc f hf => ih c hc hf) (fun c hc => ?_) (nameAt_of_extract h).2
    rw [isLinked_of_parent? (MarkupTree.mem_children.1 hc), hshown, Bool.or_true]

/-- Of the element nodes those are shown at and below the root that are linked to it. -/
theorem filter_isLinked_elements (t : MarkupTree) :
    t.elements.filter (isLinked t) =
      (t.root.toList.flatMap t.children).flatMap (shownBelow t) := by
  rw [MarkupTree.elements, MarkupTree.query, List.filter_filter, MarkupTree.preOrder]
  cases hroot : t.root with
  | none => rfl
  | some root =>
    have hself : isShown t root = false := by
      rw [isShown, Bool.and_eq_false_iff, ← Bool.not_eq_true, ← Bool.not_eq_true]
      refine .inr fun hlinked => ?_
      obtain ⟨r, hr, hlt⟩ := exists_root_lt hlinked
      exact hlt.ne (Option.some_inj.1 (hr.symm.trans hroot))
    have hbelow : shownBelow t root = (t.children root).flatMap (shownBelow t) := by
      rw [shownBelow_eq, hself]
      rfl
    rw [Option.toList_some, List.flatMap_singleton, List.flatMap_singleton, ← hbelow, shownBelow]
    exact List.filter_congr fun i _ => Bool.and_comm ..

/-- Nodes of elements have a name each. -/
theorem length_filterMap_nameAt {is : List Nat} (h : ∀ i ∈ is, isElement t i = true) :
    (is.filterMap t.nameAt).length = is.length := by
  rw [List.filterMap_length_eq_length]
  intro i hi
  rw [← isElement_eq, h i hi]

/-- If elements are extracted from a tree, then they are those of the element nodes that are linked
to the root, in the order of the tree. So none is lost exactly if each element node is below the
root with only element nodes between. -/
theorem names_extractAll (t : MarkupTree) {es : List Element} (h : extractAll t = .ok es) :
    names es = (t.elements.filter (isLinked t)).filterMap t.nameAt ∧
      (names es = t.elements.filterMap t.nameAt ↔ ∀ i ∈ t.elements, isLinked t i = true) := by
  have hnames : names es = (t.elements.filter (isLinked t)).filterMap t.nameAt := by
    rw [filter_isLinked_elements]
    refine names_of_mapM (fun c _ e => names_children_of_extract) (fun c hc => ?_) h
    obtain ⟨root, hroot, hchild⟩ := List.mem_flatMap.1 hc
    rw [isLinked_of_parent? (MarkupTree.mem_children.1 hchild), Option.mem_toList.1 hroot,
      beq_self_eq_true, Bool.true_or]
  refine ⟨hnames, fun hall => ?_, fun hall => ?_⟩
  · have helement : ∀ i ∈ t.elements, isElement t i = true := fun i hi =>
      (List.mem_filter.1 hi).2
    rw [← List.length_filter_eq_length_iff, ← length_filterMap_nameAt helement, ← hall, hnames,
      length_filterMap_nameAt fun i hi => helement i (List.mem_filter.1 hi).1]
  · rw [hnames, List.filter_eq_self.2 hall]

/-- A section with a note that is in a helper, and a footer. -/
def wrappedNote : MarkupTree :=
  let page := (MarkupTree.empty.insertRoot MarkupNode.root).1
  let (page, hero) := page.insertChild 0 (.new "section" (.element "hero" "section"))
  let (page, helper) := page.insertChild hero (.wrapper "div")
  let (page, _) := page.insertChild helper (.new "p" (.element "note" "text"))
  (page.insertChild 0 (.new "footer" (.element "footer" "section"))).1

/-- The note is lost. -/
theorem names_extractAll_wrappedNote :
    wrappedNote.elements.filterMap wrappedNote.nameAt = ["hero", "note", "footer"] ∧
      ∃ es, extractAll wrappedNote = .ok es ∧ names es = ["hero", "footer"] := by
  have hall : wrappedNote.elements.filterMap wrappedNote.nameAt = ["hero", "note", "footer"] := by
    decide +kernel
  have hlinked : (wrappedNote.elements.filter (isLinked wrappedNote)).filterMap
      wrappedNote.nameAt = ["hero", "footer"] := by
    decide +kernel
  have hextracted : (extractAll wrappedNote).isOk = true := by
    decide +kernel
  cases h : extractAll wrappedNote with
  | error reason =>
    rw [h] at hextracted
    cases hextracted
  | ok es =>
    exact ⟨hall, es, rfl, (names_extractAll wrappedNote h).1.trans hlinked⟩

end Extraction

end Sitework
