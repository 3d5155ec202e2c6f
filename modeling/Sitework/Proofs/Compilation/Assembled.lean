import Sitework.Compilation
import Sitework.Proofs.Markup.Walk
import Sitework.Proofs.Names

/-!
# What a compiled tree is made of

Compiling takes any list of elements: names may be repeated, and parents may be missing, be leaves
or form cycles. The tree starts as the root and grows by one element at a time, under a name that
is new; a button brings the helper that holds its text. So each name has one node, each button one
helper, and there is nothing else but the root. All of it is below the root.
-/

namespace Sitework

/-- Whether the node stands for a button. -/
def MarkupNode.isButton (n : MarkupNode) : Bool :=
  match n.role with
  | .element _ kind => kind == "button"
  | _ => false

namespace Compilation

variable {cache : DeclarationCache} {b : Breakpoint} {es : List Element} {t : MarkupTree}
  {ids : List String}

/-- Trees that are made of the root by attaching elements, each below a node that is there and
under a name that is new. The names are listed last one first. -/
inductive Assembled (cache : DeclarationCache) (b : Breakpoint) (es : List Element) :
    MarkupTree → List String → Prop
  | root : Assembled cache b es (MarkupTree.empty.insertRoot MarkupNode.root).1 []
  | plain {t : MarkupTree} {ids : List String} {parent : Nat} {e : Element} :
    Assembled cache b es t ids → parent < t.size → e ∈ es → e.id ∉ ids →
    (∀ href, e.kind ≠ .button href) →
    Assembled cache b es (t.push (some parent) (nodeOf cache b e)) (e.id :: ids)
  | button {t : MarkupTree} {ids : List String} {parent : Nat} {e : Element}
    {href : Option String} :
    Assembled cache b es t ids → parent < t.size → e ∈ es → e.id ∉ ids → e.kind = .button href →
    Assembled cache b es
      ((t.push (some parent) (nodeOf cache b e)).push (some t.size) (labelOf e)) (e.id :: ids)

/-- The helpers right below a node. -/
def helpers (t : MarkupTree) (i : Nat) : List Nat :=
  (t.children i).filter fun c => (t.get? c).any (·.role == .wrapper)

/-- The node of an element is a button if the element is one. -/
theorem isButton_nodeOf {e : Element} :
    (nodeOf cache b e).isButton = true ↔ ∃ href, e.kind = .button href := by
  have hrole : (nodeOf cache b e).isButton = (e.kind.name == "button") := rfl
  rw [hrole, beq_iff_eq]
  constructor
  · intro h
    cases hkind : e.kind with
    | button href => exact ⟨href, rfl⟩
    | _ =>
      rw [hkind, ElementKind.name] at h
      exact absurd h (by decide)
  · rintro ⟨href, hkind⟩
    rw [hkind]
    rfl

/-- What may be at a place of a tree: the root, the node of an element, or the helper of a button
below its node. -/
inductive IsPart (cache : DeclarationCache) (b : Breakpoint) (es : List Element)
    (t : MarkupTree) (i : Nat) (n : MarkupNode) : Prop
  | root : t.root = some i → n = .root → IsPart cache b es t i n
  | element {e : Element} : e ∈ es → n = nodeOf cache b e → IsPart cache b es t i n
  | helper {e : Element} {href : Option String} {p : Nat} : e ∈ es → e.kind = .button href →
    t.parent? i = some p → t.get? p = some (nodeOf cache b e) → n = labelOf e →
    IsPart cache b es t i n

/-- Nothing is below a number that is no node. -/
theorem helpers_of_size_le {i : Nat} (h : t.size ≤ i) : helpers t i = [] := by
  rw [helpers, MarkupTree.children_of_size_le h, List.filter_nil]

/-- A new wrapper is a helper of the node that it is put below. -/
theorem helpers_push {parent : Nat} (h : parent < t.size) (n : MarkupNode) (i : Nat) :
    helpers (t.push (some parent) n) i =
      helpers t i ++ if i = parent ∧ n.role = .wrapper then [t.size] else [] := by
  have hbefore : (t.children i).filter
      (fun c => ((t.push (some parent) n).get? c).any (·.role == .wrapper)) = helpers t i := by
    refine List.filter_congr fun c hc => ?_
    rw [MarkupTree.get?_push_of_lt (MarkupTree.lt_of_parent? (MarkupTree.mem_children.1 hc)).2]
  rw [helpers, MarkupTree.children_push h, List.filter_append, hbefore]
  by_cases hi : i = parent
  · by_cases hrole : n.role = .wrapper <;> simp [hi, hrole, MarkupTree.get?_push_size]
  · simp [hi]

namespace IsPart

variable {i : Nat} {n : MarkupNode}

/-- What is at a place stays there when a node is added. -/
theorem push (h : IsPart cache b es t i n) (hi : i < t.size) (parent : Option Nat)
    (m : MarkupNode) : IsPart cache b es (t.push parent m) i n := by
  cases h with
  | root hroot hn => exact .root hroot hn
  | element he hn => exact .element he hn
  | helper he hkind hparent hget hn =>
    have hp := MarkupTree.lt_of_parent? hparent
    exact .helper he hkind ((MarkupTree.parent?_push_of_lt hi).trans hparent)
      ((MarkupTree.get?_push_of_lt (hp.1.trans hp.2)).trans hget) hn

end IsPart

namespace Assembled

/-- There is a node at least. -/
theorem size_pos (h : Assembled cache b es t ids) : 0 < t.size := by
  cases h with
  | root => exact Nat.zero_lt_one
  | plain => rw [MarkupTree.size_push]; exact Nat.succ_pos _
  | button => rw [MarkupTree.size_push]; exact Nat.succ_pos _

/-- The root is the first node. -/
theorem root_eq (h : Assembled cache b es t ids) : t.root = some 0 := by
  induction h with
  | root => rfl
  | plain _ _ _ _ _ ih => exact ih
  | button _ _ _ _ _ ih => exact ih

/-- It is the node of a page. -/
theorem get?_zero (h : Assembled cache b es t ids) : t.get? 0 = some MarkupNode.root := by
  induction h with
  | root => rfl
  | plain h _ _ _ _ ih => rw [MarkupTree.get?_push_of_lt h.size_pos, ih]
  | button h _ _ _ _ ih =>
    rw [MarkupTree.get?_push_of_lt, MarkupTree.get?_push_of_lt h.size_pos, ih]
    rw [MarkupTree.size_push]
    exact Nat.succ_pos _

/-- A name that is attached is new. -/
theorem nodup (h : Assembled cache b es t ids) : ids.Nodup := by
  induction h with
  | root => exact List.nodup_nil
  | plain _ _ _ hid _ ih => exact List.nodup_cons.2 ⟨hid, ih⟩
  | button _ _ _ hid _ ih => exact List.nodup_cons.2 ⟨hid, ih⟩

/-- Nodes are found under the names that were attached. -/
theorem indexed_eq (h : Assembled cache b es t ids) :
    t.IsIndexed ∧ t.indexed = ids.reverse := by
  induction h with
  | root => exact ⟨fun place hplace => by simp_all [MarkupTree.insertRoot, MarkupTree.push,
      MarkupTree.empty], rfl⟩
  | plain _ _ _ _ _ ih =>
    refine ⟨ih.1.push _ _, ?_⟩
    rw [MarkupTree.indexed_push, ih.2, List.reverse_cons]
    rfl
  | button _ _ _ _ _ ih =>
    refine ⟨(ih.1.push _ _).push _ _, ?_⟩
    rw [MarkupTree.indexed_push, MarkupTree.indexed_push, ih.2, List.reverse_cons]
    exact List.append_nil _

/-- A node that is pushed below another one has a parent, like those before. -/
private theorem isSome_parent?_push {parent : Nat} (hp : parent < t.size)
    (h : ∀ i < t.size, i ≠ 0 → (t.parent? i).isSome = true) (n : MarkupNode) :
    ∀ i < (t.push (some parent) n).size, i ≠ 0 →
      ((t.push (some parent) n).parent? i).isSome = true := by
  intro i hi hzero
  rw [MarkupTree.size_push] at hi
  rcases Nat.lt_or_eq_of_le (Nat.le_of_lt_succ hi) with hlt | rfl
  · rw [MarkupTree.parent?_push_of_lt hlt]
    exact h i hlt hzero
  · rw [MarkupTree.parent?_push_size hp]
    rfl

/-- All nodes but the root have a parent. -/
theorem isSome_parent? (h : Assembled cache b es t ids) :
    ∀ i < t.size, i ≠ 0 → (t.parent? i).isSome = true := by
  induction h with
  | root => exact fun i hi hzero => absurd (Nat.lt_one_iff.1 hi) hzero
  | plain _ hparent _ _ _ ih => exact isSome_parent?_push hparent ih _
  | @button t _ _ _ _ _ hparent _ _ _ ih =>
    refine isSome_parent?_push ?_ (isSome_parent?_push hparent ih _) _
    rw [MarkupTree.size_push]
    exact Nat.lt_succ_self _

/-- The walk from the root reaches all nodes. -/
theorem preOrder_perm (h : Assembled cache b es t ids) :
    t.preOrder.Perm (List.range t.size) :=
  MarkupTree.preOrder_perm_range h.root_eq h.size_pos h.isSome_parent?

/-- With one more node there is nothing new but that node. -/
private theorem isPart_push
    (h : ∀ i n, t.get? i = some n → IsPart cache b es t i n) {parent : Option Nat}
    {m : MarkupNode} (hm : IsPart cache b es (t.push parent m) t.size m) {i : Nat}
    {n : MarkupNode} (hget : (t.push parent m).get? i = some n) :
    IsPart cache b es (t.push parent m) i n := by
  rcases MarkupTree.get?_push_eq_some.1 hget with hold | ⟨rfl, rfl⟩
  · exact (h i n hold).push (MarkupTree.lt_size_of_get? hold) parent m
  · exact hm

/-- There is nothing but the root, nodes of elements and helpers of buttons. -/
theorem isPart (h : Assembled cache b es t ids) :
    ∀ i n, t.get? i = some n → IsPart cache b es t i n := by
  induction h with
  | root =>
    intro i n hget
    have hi : i < 1 := MarkupTree.lt_size_of_get? hget
    obtain rfl := Nat.lt_one_iff.1 hi
    exact .root rfl (Option.some.inj hget).symm
  | plain _ _ he _ _ ih => exact fun i n => isPart_push ih (.element he rfl)
  | @button t ids parent e href _ _ he _ hkind ih =>
    have hnew : t.size < (t.push (some parent) (nodeOf cache b e)).size := by
      rw [MarkupTree.size_push]
      exact Nat.lt_succ_self _
    refine fun i n => isPart_push (fun i n => isPart_push ih (.element he rfl)) ?_
    refine .helper he hkind (MarkupTree.parent?_push_size hnew) ?_ rfl
    rw [MarkupTree.get?_push_of_lt hnew, MarkupTree.get?_push_size]

/-- A new node that is no helper leaves the helpers as they are. -/
private theorem helpers_push_nodeOf {parent : Nat} (h : parent < t.size) (e : Element) (i : Nat) :
    helpers (t.push (some parent) (nodeOf cache b e)) i = helpers t i := by
  have hrole : ¬(i = parent ∧ (nodeOf cache b e).role = .wrapper) :=
    fun h => NodeRole.noConfusion h.2
  rw [helpers_push h, if_neg hrole, List.append_nil]

/-- There is one helper right below the node of a button, and none below any other node. -/
theorem length_helpers (h : Assembled cache b es t ids) :
    ∀ i n, t.get? i = some n → (helpers t i).length = if n.isButton then 1 else 0 := by
  induction h with
  | root =>
    intro i n hget
    have hi : i < 1 := MarkupTree.lt_size_of_get? hget
    obtain rfl := Nat.lt_one_iff.1 hi
    obtain rfl := Option.some.inj hget
    rfl
  | @plain t ids parent e _ hparent _ _ hkind ih =>
    intro i n hget
    rw [helpers_push_nodeOf hparent]
    rcases MarkupTree.get?_push_eq_some.1 hget with hold | ⟨rfl, rfl⟩
    · exact ih i n hold
    · have hbutton : ¬(nodeOf cache b e).isButton = true := fun h =>
        let ⟨href, heq⟩ := isButton_nodeOf.1 h
        hkind href heq
      rw [helpers_of_size_le (Nat.le_refl _), if_neg hbutton]
      rfl
  | @button t ids parent e href _ hparent _ _ hkind ih =>
    have hnew : t.size < (t.push (some parent) (nodeOf cache b e)).size := by
      rw [MarkupTree.size_push]
      exact Nat.lt_succ_self _
    intro i n hget
    rw [helpers_push hnew, helpers_push_nodeOf hparent]
    rcases MarkupTree.get?_push_eq_some.1 hget with hnode | ⟨rfl, rfl⟩
    · rcases MarkupTree.get?_push_eq_some.1 hnode with hold | ⟨rfl, rfl⟩
      · rw [if_neg fun h => (MarkupTree.lt_size_of_get? hold).ne h.1, List.append_nil]
        exact ih i n hold
      · rw [helpers_of_size_le (Nat.le_refl _), if_pos ⟨rfl, rfl⟩,
          if_pos (isButton_nodeOf.2 ⟨href, hkind⟩)]
        rfl
    · rw [helpers_of_size_le hnew.le, if_neg fun h => hnew.ne' h.1]
      rfl

end Assembled

/-- Attaching an element under a new name. -/
theorem Assembled.attach (h : Assembled cache b es t ids) {parent : Nat} (hparent : parent < t.size)
    {e : Element} (he : e ∈ es) (hid : e.id ∉ ids) {u : MarkupTree} {i : Nat}
    (hattach : attach cache b t parent e = (u, i)) :
    Assembled cache b es u (e.id :: ids) ∧ i < u.size ∧ t.size ≤ u.size := by
  unfold Compilation.attach MarkupTree.insertChild at hattach
  simp only at hattach
  have hsize := t.size_push (some parent) (nodeOf cache b e)
  split at hattach
  · next href hkind =>
    obtain ⟨rfl, rfl⟩ := Prod.mk.inj hattach
    refine ⟨.button h hparent he hid hkind, ?_, ?_⟩ <;> rw [MarkupTree.size_push] <;> omega
  · next hkind =>
    obtain ⟨rfl, rfl⟩ := Prod.mk.inj hattach
    exact ⟨.plain h hparent he hid hkind, by omega, by omega⟩

/-- Building goes on attaching elements under new names until every name that waits is attached. -/
theorem Assembled.exists_build (h : Assembled cache b es t ids) (unbuilt : List String)
    {waiting : List (Nat × Element)} (hwaiting : ∀ w ∈ waiting, w.1 < t.size ∧ w.2 ∈ es)
    (hunbuilt : ∀ id ∈ unbuilt, id ∉ ids) (hall : ∀ e ∈ es, e.id ∈ unbuilt ∨ e.id ∈ ids) :
    ∃ all, Assembled cache b es (build cache b es unbuilt waiting t) all ∧
      (∀ id ∈ ids, id ∈ all) ∧ ∀ w ∈ waiting, w.2.id ∈ all := by
  fun_induction build cache b es unbuilt waiting t generalizing ids with
  | case1 unbuilt t => exact ⟨ids, h, fun id hid => hid, nofun⟩
  | case2 unbuilt t parent e waiting hid u i hattach ih =>
    obtain ⟨⟨hparent, he⟩, hrest⟩ := List.forall_mem_cons.1 hwaiting
    obtain ⟨hu, hi, hle⟩ := h.attach hparent he (hunbuilt e.id hid) hattach
    have hwaiting' : ∀ w ∈ (childrenOf es e.id).map (i, ·) ++ waiting, w.1 < u.size ∧ w.2 ∈ es := by
      intro w hw
      rcases List.mem_append.1 hw with hw | hw
      · obtain ⟨c, hc, rfl⟩ := List.mem_map.1 hw
        exact ⟨hi, List.mem_of_mem_filter hc⟩
      · exact ⟨(hrest w hw).1.trans_le hle, (hrest w hw).2⟩
    have hunbuilt' : ∀ id ∈ Names.without unbuilt e.id, id ∉ e.id :: ids := by
      intro id hid
      obtain ⟨hmem, hne⟩ := Names.mem_without.1 hid
      exact List.not_mem_cons_of_ne_of_not_mem hne (hunbuilt id hmem)
    have hall' : ∀ x ∈ es, x.id ∈ Names.without unbuilt e.id ∨ x.id ∈ e.id :: ids := by
      intro x hx
      by_cases hsame : x.id = e.id
      · exact .inr (hsame ▸ List.mem_cons_self)
      · exact (hall x hx).imp (fun h => Names.mem_without.2 ⟨h, hsame⟩) (List.mem_cons_of_mem _)
    obtain ⟨all, hbuilt, hkept, hdone⟩ := ih hu hwaiting' hunbuilt' hall'
    refine ⟨all, hbuilt, fun id hid => hkept id (List.mem_cons_of_mem _ hid), ?_⟩
    refine List.forall_mem_cons.2 ⟨hkept e.id List.mem_cons_self, fun w hw => ?_⟩
    exact hdone w (List.mem_append_right _ hw)
  | case3 unbuilt t parent e waiting hid ih =>
    obtain ⟨hfirst, hrest⟩ := List.forall_mem_cons.1 hwaiting
    obtain ⟨all, hbuilt, hkept, hdone⟩ := ih h hrest hunbuilt hall
    have hbefore : e.id ∈ all := hkept e.id ((hall e hfirst.2).resolve_left hid)
    exact ⟨all, hbuilt, hkept, List.forall_mem_cons.2 ⟨hbefore, hdone⟩⟩

/-- What is attached is named by an element. -/
theorem Assembled.mem_names (h : Assembled cache b es t ids) :
    ∀ id ∈ ids, id ∈ es.map (·.id) := by
  induction h with
  | root => exact nofun
  | plain _ _ he _ _ ih => exact List.forall_mem_cons.2 ⟨List.mem_map_of_mem he, ih⟩
  | button _ _ he _ _ ih => exact List.forall_mem_cons.2 ⟨List.mem_map_of_mem he, ih⟩

/-- The tree of some elements is assembled under all their names. -/
theorem exists_assembled (cache : DeclarationCache) (b : Breakpoint) (es : List Element) :
    ∃ ids, Assembled cache b es (compileWith cache es b) ids ∧ ∀ e ∈ es, e.id ∈ ids := by
  have hstart : Assembled cache b es (MarkupTree.empty.insertRoot MarkupNode.root).1 [] := .root
  have hwaiting : ∀ w ∈ ((es.filter fun e => (parentOf? es e).isNone) ++ es).map (0, ·),
      w.1 < (MarkupTree.empty.insertRoot MarkupNode.root).1.size ∧ w.2 ∈ es := by
    intro w hw
    obtain ⟨e, he, rfl⟩ := List.mem_map.1 hw
    exact ⟨Nat.zero_lt_one, (List.mem_append.1 he).elim List.mem_of_mem_filter id⟩
  obtain ⟨ids, hassembled, -, hdone⟩ := hstart.exists_build (es.map (·.id)) hwaiting
    (fun id _ => List.not_mem_nil) fun e he => .inl (List.mem_map_of_mem he)
  refine ⟨ids, hassembled, fun e he => ?_⟩
  exact hdone (0, e) (List.mem_map_of_mem (List.mem_append_right _ he))

/-- A tree that stands for some elements: every name has one node, every button one helper, there
is nothing else but the root, and the walk from the root comes to everything once. -/
structure IsComplete (cache : DeclarationCache) (b : Breakpoint) (es : List Element)
    (t : MarkupTree) : Prop where
  /-- The tree has its root. -/
  root : ∃ i, t.root = some i ∧ t.get? i = some MarkupNode.root
  /-- The walk comes to every node of the tree, once. -/
  reached : t.preOrder.Perm (List.range t.size)
  /-- The element nodes are those of the names, one for each. -/
  names : (t.nodes.filterMap (·.elementId?)).Perm (Names.distinct (es.map (·.id)))
  /-- A name leads to its node. -/
  found : ∀ e ∈ es, ∃ i ∈ t.preOrder, t.find? e.id = some i ∧
    (t.get? i).bind (·.elementId?) = some e.id
  /-- A node is the root, that of an element, or the helper of a button right below its node. -/
  part : ∀ i n, t.get? i = some n → IsPart cache b es t i n
  /-- There is one helper right below each button, and none elsewhere. -/
  helper : ∀ i n, t.get? i = some n → (helpers t i).length = if n.isButton then 1 else 0

/-- A tree that is assembled under all names of some elements is complete. -/
theorem Assembled.isComplete (h : Assembled cache b es t ids) (hall : ∀ e ∈ es, e.id ∈ ids) :
    IsComplete cache b es t where
  root := ⟨0, h.root_eq, h.get?_zero⟩
  reached := h.preOrder_perm
  names := by
    obtain ⟨hindexed, hnames⟩ := h.indexed_eq
    have hnodes : (t.nodes.filterMap (·.elementId?)).Perm ids := by
      calc t.nodes.filterMap (·.elementId?)
        _ = (t.preOrder.filterMap t.get?).filterMap (·.elementId?) := rfl
        _ |>.Perm (((List.range t.size).filterMap t.get?).filterMap (·.elementId?)) :=
          (h.preOrder_perm.filterMap _).filterMap _
        _ = ids.reverse := by rw [← hindexed.indexed_eq, hnames]
        _ |>.Perm ids := List.reverse_perm ids
    refine hnodes.trans ((List.perm_ext_iff_of_nodup h.nodup (Names.nodup_distinct _)).2 ?_)
    intro id
    rw [Names.mem_distinct]
    refine ⟨h.mem_names id, fun hid => ?_⟩
    obtain ⟨e, he, rfl⟩ := List.mem_map.1 hid
    exact hall e he
  found := by
    intro e he
    obtain ⟨hindexed, hnames⟩ := h.indexed_eq
    have hmem : e.id ∈ t.indexed := by
      rw [hnames, List.mem_reverse]
      exact hall e he
    rw [hindexed.indexed_eq] at hmem
    obtain ⟨n, hn, hid⟩ := List.mem_filterMap.1 hmem
    obtain ⟨i, hi, hget⟩ := List.mem_filterMap.1 hn
    refine ⟨i, h.preOrder_perm.mem_iff.2 hi, ?_, by rw [hget, Option.bind_some, hid]⟩
    exact hindexed.find?_eq_some (hnames ▸ (List.reverse_perm ids).nodup_iff.2 h.nodup) hget hid
  part := h.isPart
  helper := h.length_helpers

/-- With different names of the elements, each finds its own node. -/
theorem IsComplete.exists_node (h : IsComplete cache b es t) (hids : (es.map (·.id)).Nodup)
    {e : Element} (he : e ∈ es) :
    ∃ i ∈ t.preOrder, t.find? e.id = some i ∧ t.get? i = some (nodeOf cache b e) := by
  obtain ⟨i, hi, hfind, hname⟩ := h.found e he
  obtain ⟨n, hget, hname⟩ := Option.bind_eq_some_iff.1 hname
  refine ⟨i, hi, hfind, ?_⟩
  cases h.part i n hget with
  | root _ hroot =>
    rw [hroot] at hname
    cases hname
  | helper _ _ _ _ hhelper =>
    rw [hhelper] at hname
    cases hname
  | @element other hother hnode =>
    rw [hnode] at hname
    have hsame : other.id = e.id := Option.some_inj.1 hname
    rw [hget, hnode, List.inj_on_of_nodup_map hids hother he hsame]

/-- Whatever is handed on, the tree of some elements is complete. -/
theorem isComplete_compileWith (cache : DeclarationCache) (es : List Element) (b : Breakpoint) :
    IsComplete cache b es (compileWith cache es b) := by
  obtain ⟨ids, hassembled, hall⟩ := exists_assembled cache b es
  exact hassembled.isComplete hall

/-- Whatever the names and the parents of some elements, their tree is complete. -/
theorem isComplete_compile (es : List Element) (b : Breakpoint) :
    IsComplete OrderedMap.empty b es (compile es b) :=
  isComplete_compileWith OrderedMap.empty es b

end Compilation

/-- The markup of a page stands for its elements. -/
theorem Page.compile_isComplete (p : Page) (b : Breakpoint) :
    Compilation.IsComplete .empty b p.elements.values (p.compile b) :=
  Compilation.isComplete_compileWith .empty p.elements.values b

end Sitework
