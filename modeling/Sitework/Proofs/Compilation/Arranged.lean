import Sitework.Proofs.Compilation.Acyclic
import Sitework.Proofs.Compilation.Assembled
import Sitework.Proofs.Compilation.Represented

/-!
# Where elements are placed

In the markup of elements whose parents form no cycle, each element is a child of the node of its
parent, or of the root if it has none that may have children. The children of every node are in the
order of the list of elements.
-/

namespace Sitework

namespace Compilation

open Element Extraction

variable {cache : DeclarationCache} {b : Breakpoint} {es waiting forest : List Element}
  {t : MarkupTree} {parent : Option String} {is : List Nat} {i : Nat}

/-- The names of the elements right below a node, in order. -/
def childNames (t : MarkupTree) (i : Nat) : List String :=
  (t.children i).filterMap t.nameAt

/-- The names below a node are those of its children that have one. -/
theorem mem_childNames {name : String} :
    name ∈ childNames t i ↔ ∃ c, t.parent? c = some i ∧ t.nameAt c = some name := by
  simp only [childNames, List.mem_filterMap, MarkupTree.mem_children]

/-- Nodes that represent the forest of some elements have their names, and the children of each node
in it are those that belong below its element, in order. -/
theorem Follows.childNames_eq (h : Follows es parent waiting forest)
    (hnodes : Represents cache b t is forest) :
    is.filterMap t.nameAt = waiting.map (·.id) ∧ ∀ y ∈ flattenAll forest,
      ∃ i, t.get? i = some (nodeOf cache b y) ∧
        childNames t i = (childrenOf es y.id).map (·.id) := by
  induction h generalizing is with
  | nil parent =>
    cases hnodes
    exact ⟨rfl, nofun⟩
  | @cons parent e children waiting forest _ _ ihchildren ihforest =>
    cases hnodes with
    | @cons i is _ _ hnode _ _ hinner hrest =>
      obtain ⟨hown, hbelow⟩ := ihchildren hinner
      obtain ⟨hsiblings, hothers⟩ := ihforest hrest
      have hname : t.nameAt i = some e.id := by
        rw [MarkupTree.nameAt, hnode]
        rfl
      rw [filterMap_nameAt_filter] at hown
      refine ⟨by rw [List.filterMap_cons, hname, hsiblings, List.map_cons], fun y hy => ?_⟩
      rw [flattenAll_cons, List.mem_cons, List.mem_append] at hy
      rcases hy with rfl | hy | hy
      · exact ⟨i, hnode, hown⟩
      · exact hbelow y hy
      · exact hothers y hy

/-- A name leads to the only node of its element. -/
theorem find?_compileWith {name : String} (h : (compileWith cache es b).nameAt i = some name) :
    (compileWith cache es b).find? name = some i := by
  obtain ⟨ids, hassembled, -⟩ := exists_assembled cache b es
  obtain ⟨n, hget, hid⟩ := Option.bind_eq_some_iff.1 h
  obtain ⟨hindexed, hnames⟩ := hassembled.indexed_eq
  refine hindexed.find?_eq_some ?_ hget hid
  rw [hnames, List.nodup_reverse]
  exact hassembled.nodup

/-- Markup in which the elements below the root are those that belong below no other one, and those
below the node of an element are those that belong below it. -/
structure ListsChildren (cache : DeclarationCache) (b : Breakpoint) (es : List Element)
    (t : MarkupTree) : Prop where
  /-- The elements below the root, in order. -/
  root : ∃ root, t.root = some root ∧ t.get? root = some MarkupNode.root ∧
    childNames t root = (es.filter fun e => (parentOf? es e).isNone).map (·.id)
  /-- The elements below the node of an element, in order. -/
  node : ∀ e ∈ es, ∃ i, t.find? e.id = some i ∧ t.get? i = some (nodeOf cache b e) ∧
    childNames t i = (childrenOf es e.id).map (·.id)
  /-- A node that stands for an element is the one that its name leads to. -/
  found : ∀ i name, t.nameAt i = some name → t.find? name = some i ∧ ∃ e ∈ es, e.id = name

/-- Elements whose parents form no cycle become such markup. -/
theorem listsChildren_compileWith (cache : DeclarationCache) (b : Breakpoint)
    (hids : (es.map (·.id)).Nodup) (hacyclic : IsAcyclic es) :
    ListsChildren cache b es (compileWith cache es b) := by
  obtain ⟨forest, hgrows, hfollows⟩ := exists_grows_follows hids hacyclic
  obtain ⟨root, hroot, hnodes⟩ := hgrows.exists_represents cache b
  obtain ⟨htop, hbelow⟩ := hfollows.childNames_eq hnodes
  have hcomplete := isComplete_compileWith cache es b
  refine ⟨?_, fun e he => ?_, fun i name hname => ⟨find?_compileWith hname, ?_⟩⟩
  · obtain ⟨r, hr, hget⟩ := hcomplete.root
    obtain rfl := Option.some_inj.1 (hroot.symm.trans hr)
    exact ⟨root, hroot, hget, htop⟩
  · obtain ⟨y, hy, hid⟩ := List.mem_map.1 (hgrows.mem_names_iff.2 ⟨e, he, rfl⟩)
    obtain ⟨i, hnode, hchildren⟩ := hbelow y hy
    have hfind : (compileWith cache es b).find? e.id = some i := by
      refine find?_compileWith ?_
      rw [MarkupTree.nameAt, hnode, ← hid]
      rfl
    obtain ⟨j, -, hfound, hget⟩ := hcomplete.exists_node hids he
    obtain rfl := Option.some_inj.1 (hfind.symm.trans hfound)
    exact ⟨i, hfind, hget, hid ▸ hchildren⟩
  · obtain ⟨n, hget, hid⟩ := Option.bind_eq_some_iff.1 hname
    cases hcomplete.part i n hget with
    | root _ hn =>
      rw [hn] at hid
      cases hid
    | helper _ _ _ _ hn =>
      rw [hn] at hid
      cases hid
    | @element e he hn =>
      rw [hn] at hid
      exact ⟨e, he, Option.some_inj.1 hid⟩

/-- Markup in which each element is where it belongs. -/
structure IsArranged (cache : DeclarationCache) (b : Breakpoint) (es : List Element)
    (t : MarkupTree) : Prop where
  /-- An element that belongs below another one is a child of its node. -/
  below : ∀ e f, BelongsBelow es e f → ∃ i j,
    t.find? e.id = some i ∧ t.get? i = some (nodeOf cache b e) ∧
    t.find? f.id = some j ∧ t.get? j = some (nodeOf cache b f) ∧ t.parent? i = some j
  /-- Every other element is a child of the root. -/
  top : ∀ e ∈ es, (∀ f, ¬ BelongsBelow es e f) → ∃ i root,
    t.find? e.id = some i ∧ t.get? i = some (nodeOf cache b e) ∧
    t.root = some root ∧ t.get? root = some MarkupNode.root ∧ t.parent? i = some root
  /-- The elements right below any node are in the order of the list. -/
  order : ∀ i, (childNames t i).Sublist (es.map (·.id))
  /-- Elements are right below the root and nodes of elements that may have children only. -/
  container : ∀ i, childNames t i ≠ [] →
    t.root = some i ∨ ∃ f ∈ es, t.get? i = some (nodeOf cache b f) ∧ f.kind.acceptsChildren = true

namespace ListsChildren

variable {e f : Element} {p : Nat}

/-- An element is a child of each node that lists it. -/
theorem exists_child (h : ListsChildren cache b es t) (he : e ∈ es)
    (hmem : e.id ∈ childNames t p) :
    ∃ i, t.find? e.id = some i ∧ t.get? i = some (nodeOf cache b e) ∧ t.parent? i = some p := by
  obtain ⟨i, hfind, hget, -⟩ := h.node e he
  obtain ⟨c, hparent, hname⟩ := mem_childNames.1 hmem
  obtain rfl := Option.some_inj.1 (hfind.symm.trans (h.found c e.id hname).1)
  exact ⟨i, hfind, hget, hparent⟩

/-- An element that belongs below another has its node below the other's. -/
theorem exists_below (h : ListsChildren cache b es t) (hbelow : BelongsBelow es e f) :
    ∃ i j, t.find? e.id = some i ∧ t.get? i = some (nodeOf cache b e) ∧
      t.find? f.id = some j ∧ t.get? j = some (nodeOf cache b f) ∧ t.parent? i = some j := by
  obtain ⟨j, hfind, hget, hchildren⟩ := h.node f hbelow.parent_mem
  have hmem : e ∈ childrenOf es f.id :=
    mem_childrenOf.2 ⟨hbelow.mem, (parentOf?_eq_some_iff hbelow.mem).2 ⟨f, hbelow, rfl⟩⟩
  have hlisted : e.id ∈ childNames t j := hchildren ▸ List.mem_map_of_mem hmem
  obtain ⟨i, hchild, hnode, hparent⟩ := h.exists_child hbelow.mem hlisted
  exact ⟨i, j, hchild, hnode, hfind, hget, hparent⟩

/-- An element without a parent has its node below the root. -/
theorem exists_top (h : ListsChildren cache b es t) (he : e ∈ es)
    (hnone : parentOf? es e = none) : ∃ i root, t.find? e.id = some i ∧
      t.get? i = some (nodeOf cache b e) ∧ t.root = some root ∧
      t.get? root = some MarkupNode.root ∧ t.parent? i = some root := by
  obtain ⟨root, hroot, hget, hchildren⟩ := h.root
  have hmem : e ∈ es.filter fun e => (parentOf? es e).isNone :=
    List.mem_filter.2 ⟨he, Option.isNone_iff_eq_none.2 hnone⟩
  have hlisted : e.id ∈ childNames t root := hchildren ▸ List.mem_map_of_mem hmem
  obtain ⟨i, hchild, hnode, hparent⟩ := h.exists_child he hlisted
  exact ⟨i, root, hchild, hnode, hroot, hget, hparent⟩

/-- What has elements below it is the root or the node of an element below which they belong. -/
theorem exists_container (h : ListsChildren cache b es t) {i : Nat} (hi : childNames t i ≠ []) :
    t.root = some i ∨ ∃ f ∈ es, t.find? f.id = some i ∧ t.get? i = some (nodeOf cache b f) ∧
      f.kind.acceptsChildren = true := by
  obtain ⟨name, hname⟩ := List.exists_mem_of_ne_nil _ hi
  obtain ⟨c, hparent, hat⟩ := mem_childNames.1 hname
  obtain ⟨hfind, e, he, rfl⟩ := h.found c name hat
  cases hnone : parentOf? es e with
  | none =>
    obtain ⟨j, root, hchild, -, hroot, -, hbelow⟩ := h.exists_top he hnone
    obtain rfl := Option.some_inj.1 (hfind.symm.trans hchild)
    exact .inl (hroot.trans (hbelow.symm.trans hparent))
  | some id =>
    obtain ⟨f, hf, -⟩ := (parentOf?_eq_some_iff he).1 hnone
    obtain ⟨j, k, hchild, -, hfound, hget, hbelow⟩ := h.exists_below hf
    obtain rfl := Option.some_inj.1 (hfind.symm.trans hchild)
    obtain rfl := Option.some_inj.1 (hparent.symm.trans hbelow)
    exact .inr ⟨f, hf.parent_mem, hfound, hget, hf.accepts⟩

/-- Names below a node are in the order of the elements. -/
theorem sublist_childNames (h : ListsChildren cache b es t) (i : Nat) :
    (childNames t i).Sublist (es.map (·.id)) := by
  by_cases hi : childNames t i = []
  · rw [hi]
    exact List.nil_sublist _
  · rcases h.exists_container hi with hroot | ⟨f, hf, hfind, -⟩
    · obtain ⟨root, hroot', -, hchildren⟩ := h.root
      obtain rfl := Option.some_inj.1 (hroot.symm.trans hroot')
      rw [hchildren]
      exact List.filter_sublist.map _
    · obtain ⟨j, hfound, -, hchildren⟩ := h.node f hf
      obtain rfl := Option.some_inj.1 (hfind.symm.trans hfound)
      rw [hchildren]
      exact List.filter_sublist.map _

end ListsChildren

/-- In the markup of elements with different names whose parents form no cycle, each element is a
child of the node of the element that it names, if that is another one of a kind that may have
children, and of the root otherwise; the order is that of the list, and nothing else has elements
below it. A section names none, whatever its parent is set to. -/
theorem isArranged_compile (es : List Element) (b : Breakpoint) (hids : (es.map (·.id)).Nodup)
    (hacyclic : IsAcyclic es) : IsArranged OrderedMap.empty b es (compile es b) := by
  have h : ListsChildren OrderedMap.empty b es (compile es b) :=
    listsChildren_compileWith OrderedMap.empty b hids hacyclic
  refine ⟨fun e f => h.exists_below, fun e he hnone => h.exists_top he ?_, h.sublist_childNames,
    fun i hi => ?_⟩
  · rw [Option.eq_none_iff_forall_ne_some]
    intro id hid
    obtain ⟨f, hf, -⟩ := (parentOf?_eq_some_iff he).1 hid
    exact hnone f hf
  · refine (h.exists_container hi).imp_right ?_
    rintro ⟨f, hf, -, hget, haccepts⟩
    exact ⟨f, hf, hget, haccepts⟩

/-- A list with children before their parents, a parent that is missing, one that cannot have
children, an element that names itself, and a section that names a parent. -/
def scatteredNotes : List Element :=
  [(new "second" .text).withParent "hero", new "hero" .pageSection,
    (new "lost" .text).withParent "gone", (new "first" .text).withParent "inner",
    (new "inner" .container).withParent "hero", (new "caption" .text).withParent "first",
    (new "own" .grid).withParent "own", (new "footer" .pageSection).withParent "hero",
    (new "third" .text).withParent "hero"]

/-- How deep an element is in that list. -/
def scatteredDepth (e : Element) : Nat :=
  if e.id = "hero" then 0 else if e.id = "inner" then 1 else 2

/-- Each of them is where it belongs. -/
theorem isArranged_compile_scatteredNotes :
    (scatteredNotes.map (·.id)).Nodup ∧ IsAcyclic scatteredNotes ∧
      IsArranged OrderedMap.empty .tablet scatteredNotes (compile scatteredNotes .tablet) := by
  have hids : (scatteredNotes.map (·.id)).Nodup := by decide
  have hdepth : ∀ e ∈ scatteredNotes, ∀ f ∈ scatteredNotes, e.isSection = false →
      e.parentId = some f.id → f.id ≠ e.id → f.kind.acceptsChildren = true →
      scatteredDepth f < scatteredDepth e := by decide
  have hacyclic : IsAcyclic scatteredNotes := isAcyclic_of_depth scatteredDepth fun e f h =>
    hdepth e h.mem f h.parent_mem h.not_section h.names h.ne h.accepts
  exact ⟨hids, hacyclic, isArranged_compile scatteredNotes .tablet hids hacyclic⟩

end Compilation

end Sitework
