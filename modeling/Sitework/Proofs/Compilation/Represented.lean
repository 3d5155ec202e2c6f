import Sitework.Extraction
import Sitework.Proofs.Compilation.Nesting
import Sitework.Proofs.Markup.Tree

/-!
# Trees that represent nested elements

A node represents an element with its nested children if it is the element's node, its parent is
that of the element the child is nested in, and the element nodes below it represent the children
in order. Building a tree follows the walk that nests the elements, and nodes that are added later
elsewhere leave what is represented as it is.
-/

namespace Sitework

namespace Compilation

open Extraction

variable {cache : DeclarationCache} {b : Breakpoint}

/-- The nodes of a tree represent a forest of elements, one after the other. -/
inductive Represents (cache : DeclarationCache) (b : Breakpoint) (t : MarkupTree) :
    List Nat → List Element → Prop
  | nil : Represents cache b t [] []
  | cons {i : Nat} {is : List Nat} {e : Element} {es : List Element} :
    t.get? i = some (nodeOf cache b e) → parentId t i = e.parentId →
    (∀ href, e.kind = .button href →
      ∃ label others, t.children i = label :: others ∧ t.get? label = some (labelOf e)) →
    Represents cache b t ((t.children i).filter (isElement t)) e.children →
    Represents cache b t is es → Represents cache b t (i :: is) (e :: es)

/-- The node of an element stands for an element. -/
theorem isElement_of_get? {t : MarkupTree} {i : Nat} {e : Element}
    (h : t.get? i = some (nodeOf cache b e)) : isElement t i = true := by
  rw [isElement, h]
  rfl

/-- A node stands for an element exactly if it has a name. -/
theorem isElement_eq (t : MarkupTree) (i : Nat) : isElement t i = (t.nameAt i).isSome := by
  rw [isElement, MarkupTree.nameAt]
  cases t.get? i <;> rfl

/-- Nodes that stand for no element have no name. -/
theorem filterMap_nameAt_filter (t : MarkupTree) (is : List Nat) :
    (is.filter (isElement t)).filterMap t.nameAt = is.filterMap t.nameAt := by
  rw [List.filterMap_filter]
  refine List.filterMap_congr fun i _ => ?_
  rw [isElement_eq]
  cases t.nameAt i <;> rfl

/-- A child comes after its parent. -/
theorem lt_of_mem_children {t : MarkupTree} {i c : Nat} (h : c ∈ t.children i) :
    i < c ∧ c < t.size :=
  MarkupTree.lt_of_parent? (MarkupTree.mem_children.1 h)

/-- What a node's parent stands for stays the same in a larger tree. -/
theorem parentId_of_extends {t u : MarkupTree} {parent : Nat} {added : List Nat}
    (h : t.Extends u parent added) {i : Nat} (hi : i < t.size) : parentId u i = parentId t i := by
  rw [parentId, h.parent? i hi, parentId]
  cases hparent : t.parent? i with
  | none => rfl
  | some p =>
    have hp := MarkupTree.lt_of_parent? hparent
    rw [Option.bind_some, Option.bind_some, h.get? p (hp.1.trans hp.2)]

/-- The nodes of elements among some nodes are the same in a larger tree. -/
theorem filter_isElement_of_extends {t u : MarkupTree} {parent : Nat} {added : List Nat}
    (h : t.Extends u parent added) {is : List Nat} (his : ∀ i ∈ is, i < t.size) :
    is.filter (isElement u) = is.filter (isElement t) := by
  refine List.filter_congr fun i hi => ?_
  rw [isElement, h.get? i (his i hi), isElement]

namespace Represents

variable {t u : MarkupTree} {is : List Nat} {es : List Element}

/-- Nodes that represent elements stand for elements. -/
theorem isElement (h : Represents cache b t is es) : ∀ i ∈ is, isElement t i = true := by
  induction h with
  | nil => exact nofun
  | cons hnode _ _ _ _ _ ih =>
    rw [List.forall_mem_cons]
    exact ⟨isElement_of_get? hnode, ih⟩

/-- New children of an earlier node leave what is represented as it is. -/
theorem mono (h : Represents cache b t is es) {parent : Nat} {added : List Nat}
    (htu : t.Extends u parent added) (hparent : ∀ i ∈ is, parent < i) :
    Represents cache b u is es := by
  induction h with
  | nil => exact .nil
  | @cons i is e es hnode hnamed hlabel hchildren _ ihchildren ihrest =>
    rw [List.forall_mem_cons] at hparent
    have hi : i < t.size := MarkupTree.lt_size_of_get? hnode
    have hsame : u.children i = t.children i := by
      rw [htu.children i hi, if_neg hparent.1.ne', List.append_nil]
    refine .cons ((htu.get? i hi).trans hnode) ((parentId_of_extends htu hi).trans hnamed) ?_ ?_
      (ihrest hparent.2)
    · intro href hkind
      obtain ⟨label, others, hfirst, hget⟩ := hlabel href hkind
      have hlt : label < t.size := MarkupTree.lt_size_of_get? hget
      exact ⟨label, others, hsame.trans hfirst, (htu.get? label hlt).trans hget⟩
    · rw [hsame, filter_isElement_of_extends htu fun c hc => (lt_of_mem_children hc).2]
      refine ihchildren fun c hc => ?_
      exact hparent.1.trans (lt_of_mem_children (List.mem_filter.1 hc).1).1

end Represents

/-- A tree with the node of an element as the last child of the parent. No element is below that
node yet, and the helper of a button is its first child. -/
structure IsAttached (cache : DeclarationCache) (b : Breakpoint) (t : MarkupTree) (parent : Nat)
    (e : Element) (u : MarkupTree) : Prop where
  grown : t.Extends u parent [t.size]
  size_lt : t.size < u.size
  get?_eq : u.get? t.size = some (nodeOf cache b e)
  parent?_eq : u.parent? t.size = some parent
  filter_children : (u.children t.size).filter (isElement u) = []
  label : ∀ href, e.kind = .button href →
    ∃ label others, u.children t.size = label :: others ∧ u.get? label = some (labelOf e)

/-- Attaching an element to a node succeeds, and its node is the next one. -/
theorem exists_attach (cache : DeclarationCache) (b : Breakpoint) {t : MarkupTree} {parent : Nat}
    (hparent : parent < t.size) (e : Element) :
    ∃ u, attach cache b t parent e = (u, t.size) ∧ IsAttached cache b t parent e u := by
  obtain ⟨v, hv⟩ : ∃ v, t.push (some parent) (nodeOf cache b e) = v := ⟨_, rfl⟩
  have hextends : t.Extends v parent [t.size] := hv ▸ .push hparent _
  have hsize : t.size < v.size := by
    rw [← hv, MarkupTree.size_push]
    exact Nat.lt_succ_self _
  have hnode : v.get? t.size = some (nodeOf cache b e) := hv ▸ MarkupTree.get?_push_size _
  have hbelow : v.parent? t.size = some parent := hv ▸ MarkupTree.parent?_push_size hparent
  have hchildren : v.children t.size = [] := by
    rw [← hv, MarkupTree.children_push hparent, MarkupTree.children_of_size_le (Nat.le_refl _),
      if_neg hparent.ne', List.append_nil]
  by_cases hbutton : ∃ href, e.kind = .button href
  · obtain ⟨href, hkind⟩ := hbutton
    obtain ⟨u, hu⟩ : ∃ u, v.push (some t.size) (labelOf e) = u := ⟨_, rfl⟩
    have hinner : v.Extends u t.size [v.size] := hu ▸ .push hsize _
    have hlabel : u.get? v.size = some (labelOf e) := hu ▸ MarkupTree.get?_push_size _
    have hlabels : u.children t.size = [v.size] := by
      rw [hinner.children t.size hsize, hchildren, if_pos rfl, List.nil_append]
    refine ⟨u, ?_, hextends.below hinner (Nat.le_refl _), hsize.trans_le hinner.size_le,
      (hinner.get? _ hsize).trans hnode, (hinner.parent? _ hsize).trans hbelow, ?_,
      fun _ _ => ⟨v.size, [], hlabels, hlabel⟩⟩
    · simp only [attach, MarkupTree.insertChild, hkind, hv, hu]
    · rw [hlabels, List.filter_cons, isElement, hlabel]
      rfl
  · refine ⟨v, ?_, hextends, hsize, hnode, hbelow, ?_, fun href hkind => ?_⟩
    · simp only [attach, MarkupTree.insertChild, hv]
      split
      · next href hkind => exact absurd ⟨href, hkind⟩ hbutton
      · rfl
    · rw [hchildren, List.filter_nil]
    · exact absurd ⟨href, hkind⟩ hbutton

/-- The new node represents its element, once nodes that represent the children are added below it.
What is added below the parent afterwards changes nothing of that. -/
theorem IsAttached.represents_cons {t u v w : MarkupTree} {i : Nat} {n : MarkupNode} {e : Element}
    {inner is : List Nat} {children forest : List Element} (h : IsAttached cache b t i e u)
    (hnode : t.get? i = some n) (huv : u.Extends v t.size inner)
    (hchildren : Represents cache b v inner children) (hvw : v.Extends w i is)
    (hforest : Represents cache b w is forest) :
    Represents cache b w (t.size :: is)
      ({ e with parentId := n.elementId?, children := children } :: forest) := by
  have hi : i < t.size := MarkupTree.lt_size_of_get? hnode
  have hnew : t.size < v.size := h.size_lt.trans_le huv.size_le
  have hinner : v.children t.size = u.children t.size ++ inner := by
    rw [huv.children _ h.size_lt, if_pos rfl]
  have hsame : w.children t.size = u.children t.size ++ inner := by
    rw [hvw.children _ hnew, if_neg hi.ne', List.append_nil, hinner]
  refine .cons ?_ ?_ ?_ ?_ hforest
  · exact (hvw.get? _ hnew).trans ((huv.get? _ h.size_lt).trans h.get?_eq)
  · rw [parentId_of_extends hvw hnew, parentId_of_extends huv h.size_lt, parentId, h.parent?_eq,
      Option.bind_some, h.grown.get? i hi, hnode]
    rfl
  · intro href hkind
    obtain ⟨label, others, hfirst, hget⟩ := h.label href hkind
    have hlt : label < u.size := MarkupTree.lt_size_of_get? hget
    refine ⟨label, others ++ inner, by rw [hsame, hfirst, List.cons_append], ?_⟩
    exact (hvw.get? _ (hlt.trans_le huv.size_le)).trans ((huv.get? _ hlt).trans hget)
  · -- below the node are the helper of a button and what the children became
    have hafter : ∀ c ∈ inner, i < c := fun c hc =>
      hi.trans (lt_of_mem_children (hinner ▸ List.mem_append_right _ hc)).1
    have hkept := hchildren.mono hvw hafter
    have helements : (w.children t.size).filter (isElement w) = inner := by
      rw [hsame, List.filter_append, List.filter_eq_self.2 hkept.isElement,
        filter_isElement_of_extends hvw fun c hc => (lt_of_mem_children hc).2.trans_le huv.size_le,
        filter_isElement_of_extends huv fun c hc => (lt_of_mem_children hc).2, h.filter_children,
        List.nil_append]
    rw [helements]
    exact hkept

/-- Building a tree follows the walk: the elements that wait below a node become new children of it
that represent their forest, and building goes on with the names that are left. -/
theorem Nests.exists_build {es waiting forest : List Element} {parent : Option String}
    {unbuilt left : List String} (h : Nests es parent unbuilt waiting forest left)
    (cache : DeclarationCache) (b : Breakpoint) {t : MarkupTree} {i : Nat} {n : MarkupNode}
    (hnode : t.get? i = some n) (hparent : n.elementId? = parent) (rest : List (Nat × Element)) :
    ∃ u is, build cache b es unbuilt (waiting.map (i, ·) ++ rest) t = build cache b es left rest u ∧
      t.Extends u i is ∧ Represents cache b u is forest := by
  induction h generalizing t i n rest with
  | done parent unbuilt => exact ⟨t, [], rfl, .refl t i, .nil⟩
  | @skip parent unbuilt left e waiting forest hid _ ih =>
    obtain ⟨u, is, hbuild, hrest⟩ := ih hnode hparent rest
    refine ⟨u, is, ?_, hrest⟩
    rw [List.map_cons, List.cons_append, build, dif_neg hid, hbuild]
  | @nest parent unbuilt between left e children waiting forest hid _ _ ihchildren ihforest =>
    have hi : i < t.size := MarkupTree.lt_size_of_get? hnode
    obtain ⟨u, hattach, hu⟩ := exists_attach cache b hi e
    obtain ⟨v, inner, hinner, huv, hchildren⟩ :=
      ihchildren hu.get?_eq rfl (waiting.map (i, ·) ++ rest)
    have htv : t.Extends v i [t.size] := hu.grown.below huv (Nat.le_refl _)
    obtain ⟨w, is, hbuild, hvw, hforest⟩ := ihforest ((htv.get? i hi).trans hnode) hparent rest
    refine ⟨w, t.size :: is, ?_, htv.append hvw, ?_⟩
    · rw [List.map_cons, List.cons_append, build, dif_pos hid, hattach]
      exact hinner.trans hbuild
    · rw [← hparent]
      exact hu.represents_cons hnode huv hchildren hvw hforest

/-- The tree of some elements represents the forest that they become, below its root. -/
theorem Grows.exists_represents {es forest : List Element} (h : Grows es forest)
    (cache : DeclarationCache) (b : Breakpoint) :
    ∃ root, (compileWith cache es b).root = some root ∧
      Represents cache b (compileWith cache es b) ((compileWith cache es b).children root)
        forest := by
  obtain ⟨t, ht⟩ : ∃ t, (MarkupTree.empty.insertRoot MarkupNode.root).1 = t := ⟨_, rfl⟩
  have hroot : t.get? 0 = some MarkupNode.root := by
    rw [← ht]
    rfl
  have hchildren : t.children 0 = [] := by
    rw [← ht]
    rfl
  obtain ⟨u, is, hbuild, htu, hrepresents⟩ := Nests.exists_build h cache b hroot rfl []
  have htree : compileWith cache es b = u := by
    rw [List.append_nil, build, ← ht] at hbuild
    exact hbuild
  have htop : u.children 0 = is := by
    rw [htu.children 0 (MarkupTree.lt_size_of_get? hroot), hchildren, if_pos rfl, List.nil_append]
  refine ⟨0, ?_, ?_⟩
  · rw [htree, htu.root, ← ht]
    rfl
  · rw [htree, htop]
    exact hrepresents

end Compilation

end Sitework
