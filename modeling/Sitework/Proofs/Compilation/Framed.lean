import Sitework.Proofs.Compilation.Cached
import Sitework.Proofs.Markup.Mapped
import Sitework.Proofs.Style.Open

/-!
# What handed on declarations may change

Compiling with declarations that were handed on builds the same tree as compiling without: step by
step the nodes of the same elements are attached at the same places. Nodes of an element differ only
in what is declared for groups that the style in force leaves open, whatever was handed on. From the
tree's own declarations nothing changes at all.
-/

namespace Sitework

/-- The node without the declarations at the breakpoint that is shown. -/
def MarkupNode.undeclared (n : MarkupNode) : MarkupNode :=
  { n with declarations := OrderedMap.empty }

/-- Places of the same kind whose nodes are related. -/
structure PlacedNode.Related (R : MarkupNode → MarkupNode → Prop) (p q : PlacedNode) : Prop where
  index : p.index = q.index
  parent : p.parent = q.parent
  node : R p.node q.node

namespace MarkupTree

/-- Trees of the same shape whose nodes are related place by place. -/
structure Related (R : MarkupNode → MarkupNode → Prop) (t u : MarkupTree) : Prop where
  root : t.root = u.root
  size : t.size = u.size
  places : ∀ i : Nat, Option.Rel (PlacedNode.Related R) t.places[i]? u.places[i]?

namespace Related

variable {R : MarkupNode → MarkupNode → Prop} {f : MarkupNode → MarkupNode} {t u : MarkupTree}
  {n m : MarkupNode}

/-- A tree is related to itself where every node is. -/
theorem refl (hR : ∀ n, R n n) (t : MarkupTree) : Related R t t where
  root := rfl
  size := rfl
  places i := by
    cases t.places[i]? with
    | none => exact .none
    | some place => exact .some ⟨rfl, rfl, hR _⟩

/-- Related nodes are added below the same number. -/
theorem push (h : Related R t u) (hnode : R n m) (hid : n.elementId? = m.elementId?)
    (parent : Option Nat) : Related R (t.push parent n) (u.push parent m) where
  root := h.root
  size := by rw [size_push, size_push, h.size]
  places i := by
    have hsize : t.places.size = u.places.size := h.size
    rw [MarkupTree.push, MarkupTree.push, Array.getElem?_push, Array.getElem?_push, hsize]
    split
    · exact .some ⟨hid, by rw [h.size], hnode⟩
    · exact h.places i

/-- Nodes of the same number are related. -/
theorem get? (h : Related R t u) {i : Nat} (hn : t.get? i = some n) (hm : u.get? i = some m) :
    R n m := by
  obtain ⟨p, hp, rfl⟩ := Option.map_eq_some_iff.1 hn
  obtain ⟨q, hq, rfl⟩ := Option.map_eq_some_iff.1 hm
  have hplace := h.places i
  rw [hp, hq] at hplace
  cases hplace with
  | some hrelated => exact hrelated.node

/-- Related trees become the same with a function that does not tell their nodes apart. -/
theorem mapNodes_eq (h : Related R t u)
    (hf : ∀ i n m, t.get? i = some n → u.get? i = some m → f n = f m) :
    t.mapNodes f = u.mapNodes f := by
  refine ext_places (fun i => ?_) h.root
  have hplace := h.places i
  have hnode := hf i
  rw [MarkupTree.get?, MarkupTree.get?] at hnode
  rw [mapNodes, mapNodes, Array.getElem?_map, Array.getElem?_map]
  revert hplace hnode
  generalize t.places[i]? = p
  generalize u.places[i]? = q
  rintro (hrelated | -) hnode
  · rw [Option.map_some, Option.map_some, PlacedNode.mapNode, PlacedNode.mapNode,
      hnode _ _ rfl rfl, hrelated.index, hrelated.parent]
  · rfl

/-- Related trees are equal if their nodes are. -/
theorem eq_of_get? (h : Related R t u)
    (hsame : ∀ i n m, t.get? i = some n → u.get? i = some m → n = m) : t = u := by
  have hid (v : MarkupTree) : v.mapNodes id = v :=
    ext_places (fun i => by rw [mapNodes, Array.getElem?_map]; cases v.places[i]? <;> rfl) rfl
  rw [← hid t, ← hid u]
  exact h.mapNodes_eq hsame

end Related

end MarkupTree

namespace Compilation

variable {cache : DeclarationCache} {b : Breakpoint} {es : List Element} {t u : MarkupTree}
  {n m : MarkupNode}

/-- Nodes that are the same, or those of one element with declarations handed on and without. -/
def SameElement (cache : DeclarationCache) (b : Breakpoint) (es : List Element)
    (n m : MarkupNode) : Prop :=
  n = m ∨ ∃ e ∈ es, n = nodeOf cache b e ∧ m = nodeOf OrderedMap.empty b e

/-- Nodes of one element differ in their declarations only. -/
theorem SameElement.undeclared_eq (h : SameElement cache b es n m) :
    n.undeclared = m.undeclared := by
  obtain rfl | ⟨e, -, rfl, rfl⟩ := h
  · rfl
  · rw [MarkupNode.undeclared, MarkupNode.undeclared, nodeOf, nodeOf]

/-- An element is attached to related trees under the same number. -/
theorem exists_attach_related (h : t.Related (SameElement cache b es) u) {e : Element}
    (he : e ∈ es) (parent : Nat) : ∃ t' u' i, attach cache b t parent e = (t', i) ∧
      attach OrderedMap.empty b u parent e = (u', i) ∧ t'.Related (SameElement cache b es) u' := by
  have hid (cache : DeclarationCache) : (nodeOf cache b e).elementId? = some e.id := rfl
  have hnode := h.push (.inr ⟨e, he, rfl, rfl⟩) ((hid cache).trans (hid _).symm) (some parent)
  unfold attach MarkupTree.insertChild
  simp only [h.size]
  split
  · exact ⟨_, _, _, rfl, rfl, hnode.push (.inl rfl) rfl _⟩
  · exact ⟨_, _, _, rfl, rfl, hnode⟩

/-- Building goes on attaching the same elements at the same places. -/
theorem related_build (h : t.Related (SameElement cache b es) u) (unbuilt : List String)
    {waiting : List (Nat × Element)} (hwaiting : ∀ w ∈ waiting, w.2 ∈ es) :
    (build cache b es unbuilt waiting t).Related (SameElement cache b es)
      (build OrderedMap.empty b es unbuilt waiting u) := by
  fun_induction build cache b es unbuilt waiting t generalizing u with
  | case1 unbuilt t =>
    rw [build]
    exact h
  | case2 unbuilt t parent e waiting hid t' i hattach ih =>
    obtain ⟨he, hrest⟩ := List.forall_mem_cons.1 hwaiting
    obtain ⟨t'', u', j, ht, hu, hrelated⟩ := exists_attach_related h he parent
    obtain ⟨rfl, rfl⟩ := Prod.mk.inj (hattach.symm.trans ht)
    rw [build, dif_pos hid, hu]
    -- as the numbers are the same, so are the elements that wait from here on
    refine ih hrelated fun w hw => ?_
    rcases List.mem_append.1 hw with hw | hw
    · obtain ⟨c, hc, rfl⟩ := List.mem_map.1 hw
      exact List.mem_of_mem_filter hc
    · exact hrest w hw
  | case3 unbuilt t parent e waiting hid ih =>
    rw [build, dif_neg hid]
    exact ih h (List.forall_mem_cons.1 hwaiting).2

/-- What is handed on leaves every node that of the same element. -/
theorem related_compileWith (cache : DeclarationCache) (es : List Element) (b : Breakpoint) :
    (compileWith cache es b).Related (SameElement cache b es) (compile es b) := by
  have hroot : (MarkupTree.empty.insertRoot MarkupNode.root).1.Related (SameElement cache b es)
      (MarkupTree.empty.insertRoot MarkupNode.root).1 := .refl (fun _ => .inl rfl) _
  refine related_build hroot _ fun w hw => ?_
  obtain ⟨e, he, rfl⟩ := List.mem_map.1 hw
  exact (List.mem_append.1 he).elim List.mem_of_mem_filter id

/-- What was handed on changes the declarations of open groups only. -/
theorem filter_declarations_nodeOf (cache : DeclarationCache) (b : Breakpoint) (e : Element) :
    (nodeOf cache b e).declarations.filter (fun name _ => !(e.resolvedStyle b).isOpenAt name) =
      (nodeOf OrderedMap.empty b e).declarations.filter
        (fun name _ => !(e.resolvedStyle b).isOpenAt name) :=
  (Style.filter_declarations_complete _ _).trans (Style.filter_declarations_complete _ _).symm

/-- From its own declarations at the same breakpoint an element is declared as it was. -/
theorem declarationsAt_declarationsAt (e : Element) (b : Breakpoint) :
    e.declarationsAt b (some (e.declarationsAt b none)) = e.declarationsAt b none :=
  Style.declarations_complete_eq_iff.2 (not_borrows_of_contains e (by cases b <;> rfl))

/-- Handing its own declarations on to a tree changes none of its nodes. -/
theorem compileWith_declarationCache_compile (es : List Element) (b : Breakpoint) :
    compileWith (compile es b).declarationCache es b = compile es b := by
  have hrelated := related_compileWith (compile es b).declarationCache es b
  refine hrelated.eq_of_get? fun i n m hn hm => ?_
  obtain rfl | ⟨e, -, rfl, rfl⟩ := hrelated.get? hn hm
  · rfl
  · -- the element's name is that of this node only, so what is handed on for it is from here
    have hlast : (compile es b).declarationCache.get? e.id = some (e.declarationsAt b none) :=
      (isComplete_compileWith OrderedMap.empty es b).get?_declarationCache_of_get? hm rfl
    rw [nodeOf, nodeOf, hlast, declarationsAt_declarationsAt, OrderedMap.get?_empty]

/-- Whatever is handed on, the tree has its shape, and its nodes have all but the declarations that
are shown, as without. These differ at most in the groups of which the style that is in force for
the element sets some members, but not all. With the tree's own declarations handed on, there is no
difference. -/
theorem mapNodes_undeclared_compileWith (cache : DeclarationCache) (es : List Element)
    (b : Breakpoint) :
    (compileWith cache es b).mapNodes MarkupNode.undeclared =
        (compile es b).mapNodes MarkupNode.undeclared ∧
      (∀ i n m, (compileWith cache es b).get? i = some n → (compile es b).get? i = some m →
        n = m ∨ ∃ e ∈ es, n = nodeOf cache b e ∧ m = nodeOf OrderedMap.empty b e ∧
          n.declarations.filter (fun name _ => !(e.resolvedStyle b).isOpenAt name) =
            m.declarations.filter (fun name _ => !(e.resolvedStyle b).isOpenAt name)) ∧
      compileWith (compile es b).declarationCache es b = compile es b := by
  have hrelated := related_compileWith cache es b
  refine ⟨hrelated.mapNodes_eq fun i n m hn hm => (hrelated.get? hn hm).undeclared_eq, ?_,
    compileWith_declarationCache_compile es b⟩
  intro i n m hn hm
  refine (hrelated.get? hn hm).imp_right ?_
  rintro ⟨e, he, rfl, rfl⟩
  exact ⟨e, he, rfl, rfl, filter_declarations_nodeOf cache b e⟩

end Compilation

end Sitework
