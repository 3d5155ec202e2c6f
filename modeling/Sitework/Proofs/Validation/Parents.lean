import Mathlib.Logic.Relation
import Sitework.Proofs.Validation

/-!
# Chains of parents

The parent of an element is checked by a walk from parent to parent that remembers the names on
its way. It ends on any page, whatever the names of its elements are: each step takes it to another
name of the page, until it meets a name again or an element without a parent on the page. Where
elements are kept under their own names, the walk meets a name again only on a cycle, so no walk
finds a cycle exactly if no chain of parents comes back to where it started.
-/

namespace Sitework

namespace Page

/-- The parent of an element, if it is on the page. -/
def parent? (p : Page) (e : Element) : Option Element :=
  e.parentId.bind p.elements.get?

/-- The second element is the parent of the first one. -/
def HasParent (p : Page) (e f : Element) : Prop :=
  p.parent? e = some f

/-- No chain of parents comes back to the element that it started from. -/
def IsAcyclic (p : Page) : Prop :=
  ∀ e, ¬ Relation.TransGen p.HasParent e e

/-- Every element is kept under its own name. -/
def KeepsOwnNames (p : Page) : Prop :=
  ∀ id e, p.elements.get? id = some e → id = e.id

/-- The names of the elements. -/
def ids (p : Page) : List String :=
  p.elements.values.map (·.id)

/-- The walk from an element whose way up to there went past some names. It visits a number of
parents and tells whether the last of them has one of the names passed before. -/
inductive Walk (p : Page) : List String → Element → Nat → Bool → Prop
  | top {passed : List String} {e : Element} : p.parent? e = none → Walk p passed e 0 false
  | back {passed : List String} {e f : Element} :
    p.HasParent e f → f.id ∈ passed → Walk p passed e 1 true
  | up {passed : List String} {e f : Element} {n : Nat} {cyclic : Bool} :
    p.HasParent e f → f.id ∉ passed → Walk p (f.id :: passed) f n cyclic →
      Walk p passed e (n + 1) cyclic

variable {p : Page} {e f : Element}

/-- A parent is on the page. -/
theorem HasParent.mem_values (h : p.HasParent e f) : f ∈ p.elements.values := by
  obtain ⟨id, -, hget⟩ := Option.bind_eq_some_iff.1 h
  exact OrderedMap.mem_values_of_get? hget

/-- So its name is one of the page. -/
theorem HasParent.id_mem_ids (h : p.HasParent e f) : f.id ∈ p.ids :=
  List.mem_map_of_mem h.mem_values

theorem length_ids (p : Page) : p.ids.length = p.elements.size := by
  rw [ids, OrderedMap.values, List.map_map, List.length_map, OrderedMap.size]

/-- A name belongs to one element, if elements are kept under their own names. -/
theorem KeepsOwnNames.eq_of_id_eq (h : p.KeepsOwnNames) (he : e ∈ p.elements.values)
    (hf : f ∈ p.elements.values) (hid : e.id = f.id) : e = f := by
  have hget {x : Element} (hx : x ∈ p.elements.values) : p.elements.get? x.id = some x := by
    obtain ⟨⟨id, _⟩, hentry, rfl⟩ := List.mem_map.1 hx
    have hfound := OrderedMap.get?_eq_some_iff.2 hentry
    rwa [h id _ hfound] at hfound
  rw [← Option.some_inj, ← hget he, ← hget hf, hid]

/-- A chain of parents that ends does not come back to its start. -/
theorem not_transGen_of_parent?_eq_none (htop : p.parent? f = none)
    (h : Relation.ReflTransGen p.HasParent e f) : ¬ Relation.TransGen p.HasParent e e := by
  induction h using Relation.ReflTransGen.head_induction_on with
  | refl =>
    intro hcycle
    obtain ⟨parent, hparent, -⟩ := Relation.TransGen.head'_iff.1 hcycle
    exact Option.some_ne_none parent (hparent.symm.trans htop)
  | @head a c hstep _ ih =>
    -- the parent of an element on a cycle is on that cycle
    intro hcycle
    obtain ⟨parent, hparent, hback⟩ := Relation.TransGen.head'_iff.1 hcycle
    obtain rfl : parent = c := Option.some.inj (hparent.symm.trans hstep)
    exact ih (Relation.TransGen.tail' hback hstep)

/-- There is no cycle if each parent on the page has a lower rank than its child. -/
theorem isAcyclic_of_rank (rank : Element → Nat)
    (h : ∀ e ∈ p.elements.values, ∀ f, p.HasParent e f → rank f < rank e) : p.IsAcyclic := by
  have hlower {e f : Element} (he : e ∈ p.elements.values)
      (hchain : Relation.TransGen p.HasParent e f) : rank f < rank e := by
    induction hchain with
    | single hparent => exact h _ he _ hparent
    | tail hchain hparent ih =>
      obtain ⟨x, -, hlast⟩ := Relation.TransGen.tail'_iff.1 hchain
      exact (h _ hlast.mem_values _ hparent).trans ih
  intro e hcycle
  obtain ⟨x, -, hback⟩ := Relation.TransGen.tail'_iff.1 hcycle
  exact lt_irrefl _ (hlower hback.mem_values hcycle)

namespace Walk

variable {passed : List String} {n : Nat}

/-- A walk that meets no name again ends at the top of the chain. -/
theorem exists_top (h : p.Walk passed e n false) :
    ∃ f, Relation.ReflTransGen p.HasParent e f ∧ p.parent? f = none := by
  generalize hcyclic : false = cyclic at h
  induction h with
  | top hnone => exact ⟨_, .refl, hnone⟩
  | back => cases hcyclic
  | up hparent _ _ ih =>
    obtain ⟨f, hchain, htop⟩ := ih hcyclic
    exact ⟨f, .head hparent hchain, htop⟩

/-- A walk that meets a name again has gone along a cycle, if the names that it passed are those of
elements further down on its way. -/
theorem exists_cycle (hown : p.KeepsOwnNames) (h : p.Walk passed e n true)
    (hpassed : ∀ id ∈ passed, ∃ x ∈ p.elements.values,
      x.id = id ∧ Relation.ReflTransGen p.HasParent x e) :
    ∃ f, Relation.TransGen p.HasParent f f := by
  generalize hcyclic : true = cyclic at h
  induction h with
  | top => cases hcyclic
  | @back passed e f hparent hmem =>
    obtain ⟨x, hx, hid, hchain⟩ := hpassed _ hmem
    obtain rfl : x = f := hown.eq_of_id_eq hx hparent.mem_values hid
    exact ⟨x, Relation.TransGen.tail' hchain hparent⟩
  | @up passed e f n cyclic hparent _ _ ih =>
    refine ih (List.forall_mem_cons.2 ⟨⟨f, hparent.mem_values, rfl, .refl⟩, ?_⟩) hcyclic
    intro id hid
    obtain ⟨x, hx, hname, hchain⟩ := hpassed id hid
    exact ⟨x, hx, hname, hchain.tail hparent⟩

end Walk

end Page

namespace Validation

open Page

variable {p : Page} {e : Element}

/-- The way up from an element is followed to its end, and each parent but the last one takes a
name from those that were not passed yet. -/
theorem exists_walk_leaves {passed unseen : List String}
    (hunseen : ∀ id ∈ p.ids, id ∈ unseen ↔ id ∉ passed) (e : Element) :
    ∃ n ≤ unseen.length + 1, p.Walk passed e n (leaves p.elements unseen e) := by
  induction hlength : unseen.length using Nat.strong_induction_on
    generalizing passed unseen e with
  | h length ih =>
    rw [leaves]
    split
    · next hnone => exact ⟨0, Nat.zero_le _, .top hnone⟩
    · next f hparent =>
      have hid : f.id ∈ p.ids := HasParent.id_mem_ids hparent
      split
      · next hmem =>
        have hshorter := Names.length_without_lt hmem
        rw [hlength] at hshorter
        have hrest : ∀ id ∈ p.ids, id ∈ Names.without unseen f.id ↔ id ∉ f.id :: passed := by
          intro id hid
          rw [Names.mem_without, hunseen id hid, List.mem_cons, not_or, and_comm]
        obtain ⟨n, hn, hwalk⟩ := ih _ hshorter hrest f rfl
        exact ⟨n + 1, by omega, .up hparent ((hunseen _ hid).1 hmem) hwalk⟩
      · next hmem =>
        refine ⟨1, by omega, .back hparent ?_⟩
        rwa [hunseen _ hid, not_not] at hmem

/-- The check of an element's parent is a walk that passes the name of the element first. It visits
at most one parent for each element of the page and one more. -/
theorem exists_walk_isCyclic (p : Page) (e : Element) :
    ∃ n ≤ p.elements.size + 1, p.Walk [e.id] e n (isCyclic p e) := by
  have hunseen : ∀ id ∈ p.ids, id ∈ Names.without p.ids e.id ↔ id ∉ [e.id] := by
    intro id hid
    rw [Names.mem_without, List.mem_singleton, and_iff_right hid]
  obtain ⟨n, hn, hwalk⟩ := exists_walk_leaves hunseen e
  have hlength : (Names.without p.ids e.id).length ≤ p.elements.size :=
    (List.length_filter_le _ _).trans_eq p.length_ids
  exact ⟨n, by omega, hwalk⟩

/-- Without cycles, no walk finds one. -/
theorem isCyclic_eq_false_of_isAcyclic (hown : p.KeepsOwnNames) (h : p.IsAcyclic)
    (he : e ∈ p.elements.values) : isCyclic p e = false := by
  obtain ⟨n, -, hwalk⟩ := exists_walk_isCyclic p e
  rw [← Bool.not_eq_true]
  intro hcyclic
  rw [hcyclic] at hwalk
  obtain ⟨f, hcycle⟩ := hwalk.exists_cycle hown
    (List.forall_mem_singleton.2 ⟨e, he, rfl, .refl⟩)
  exact h f hcycle

/-- There is no cycle if no walk finds one from an element that has a parent on the page. -/
theorem isAcyclic_of_isCyclic_eq_false
    (h : ∀ e ∈ p.elements.values, ∀ f, p.HasParent e f → isCyclic p e = false) :
    p.IsAcyclic := by
  intro e hcycle
  obtain ⟨f, hparent, -⟩ := Relation.TransGen.head'_iff.1 hcycle
  obtain ⟨x, -, hback⟩ := Relation.TransGen.tail'_iff.1 hcycle
  obtain ⟨n, -, hwalk⟩ := exists_walk_isCyclic p e
  rw [h e hback.mem_values f hparent] at hwalk
  obtain ⟨top, hchain, htop⟩ := hwalk.exists_top
  exact not_transGen_of_parent?_eq_none htop hchain hcycle

end Validation

end Sitework
