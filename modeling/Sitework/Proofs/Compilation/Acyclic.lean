import Mathlib.Order.WellFoundedSet
import Sitework.Proofs.Compilation.Nesting

/-!
# Elements whose parents form no cycle

If no element belongs below itself through others, then every element is reached from those below
the root. The walk passes none over: it becomes the forest in which each element has exactly the
children that name it, in the order of the list.
-/

namespace Sitework

namespace Compilation

open Element

variable {es waiting forest : List Element} {parent : Option String} {unbuilt left : List String}

/-- An element other than a section belongs below another one that it names as its parent, if that
is of a kind that may have children. -/
structure BelongsBelow (es : List Element) (e f : Element) : Prop where
  mem : e ∈ es
  parent_mem : f ∈ es
  not_section : e.isSection = false
  names : e.parentId = some f.id
  ne : f.id ≠ e.id
  accepts : f.kind.acceptsChildren = true

/-- No element belongs below itself, be it through other elements. -/
def IsAcyclic (es : List Element) : Prop :=
  ∀ e, ¬ Relation.TransGen (BelongsBelow es) e e

/-- There is no cycle if every element has a greater depth than those below which it belongs. -/
theorem isAcyclic_of_depth (depth : Element → Nat)
    (h : ∀ e f, BelongsBelow es e f → depth f < depth e) : IsAcyclic es := by
  have hlt {e f : Element} (hbelow : Relation.TransGen (BelongsBelow es) e f) :
      depth f < depth e := by
    induction hbelow with
    | single hbelow => exact h _ _ hbelow
    | tail _ hbelow ih => exact (h _ _ hbelow).trans ih
  exact fun e hcycle => Nat.lt_irrefl _ (hlt hcycle)

/-- The name below which an element belongs is that of an element below which it belongs. -/
theorem parentOf?_eq_some_iff {e : Element} (he : e ∈ es) {id : String} :
    parentOf? es e = some id ↔ ∃ f, BelongsBelow es e f ∧ f.id = id := by
  rw [parentOf?]
  cases hsection : e.isSection with
  | true =>
    rw [if_pos rfl]
    refine iff_of_false (Option.some_ne_none id).symm ?_
    rintro ⟨f, hf, -⟩
    rw [hf.not_section] at hsection
    cases hsection
  | false =>
    rw [if_neg Bool.false_ne_true, Option.filter_eq_some_iff]
    simp only [isContainer, Bool.and_eq_true, bne_iff_ne, List.any_eq_true, beq_iff_eq]
    constructor
    · rintro ⟨hparent, hne, f, hf, rfl, haccepts⟩
      exact ⟨f, ⟨he, hf, hsection, hparent, hne, haccepts⟩, rfl⟩
    · rintro ⟨f, hf, rfl⟩
      exact ⟨hf.names, hf.ne, f, hf.parent_mem, rfl, hf.accepts⟩

/-- What passes from the elements below which an element belongs to that element holds of all
elements, if there is no cycle. -/
theorem IsAcyclic.induction (h : IsAcyclic es) {P : Element → Prop}
    (step : ∀ e ∈ es, (∀ f, BelongsBelow es e f → P f) → P e) : ∀ e ∈ es, P e := by
  have : IsStrictOrder Element fun f e => Relation.TransGen (BelongsBelow es) e f :=
    { irrefl := h, trans := fun _ _ _ hfirst hsecond => hsecond.trans hfirst }
  intro e he
  exact ((List.finite_toSet es).wellFoundedOn
    (r := fun f e => Relation.TransGen (BelongsBelow es) e f)).induction he
      fun e he ih => step e he fun f hf => ih f hf.parent_mem (.single hf)

namespace Nests

/-- Whatever is built is followed by all that belongs below it. -/
theorem not_mem_left_of_parentOf? (h : Nests es parent unbuilt waiting forest left) {id : String}
    (hid : id ∈ names forest) : ∀ c ∈ childrenOf es id, c.id ∉ left := by
  induction h with
  | done parent unbuilt => exact absurd hid List.not_mem_nil
  | skip _ _ ih => exact ih hid
  | @nest parent unbuilt between left e children waiting forest _ hchildren hrest ihchildren
      ihforest =>
    have hleft {name : String} (hname : name ∉ between) : name ∉ left :=
      fun hmem => hname (hrest.mem_left_iff.1 hmem).1
    rw [mem_names_cons] at hid
    rcases hid with rfl | hid | hid
    · exact fun c hc => hleft (hchildren.not_mem_left c hc)
    · exact fun c hc => hleft (ihchildren hid c hc)
    · exact ihforest hid

/-- An element that is built has the parent below which it belongs. -/
theorem exists_parentId_eq (h : Nests es parent unbuilt waiting forest left)
    (hwaiting : ∀ e ∈ waiting, e ∈ es ∧ parentOf? es e = parent) {y : Element}
    (hy : y ∈ flattenAll forest) : ∃ e ∈ es, e.id = y.id ∧ y.parentId = parentOf? es e := by
  obtain ⟨e, own, rfl, ⟨hmem, rfl⟩ | ⟨id, hmem, rfl⟩⟩ := h.exists_origin hy
  · obtain ⟨he, hparent⟩ := hwaiting e hmem
    exact ⟨e, he, rfl, hparent.symm⟩
  · obtain ⟨he, hparent⟩ := mem_childrenOf.1 hmem
    exact ⟨e, he, rfl, hparent.symm⟩

/-- An element that is built belongs below the parent of the walk or below one that is built. -/
theorem parentOf?_of_mem_names (h : Nests es parent unbuilt waiting forest left)
    (hids : (es.map (·.id)).Nodup) (hwaiting : ∀ e ∈ waiting, e ∈ es ∧ parentOf? es e = parent)
    {c : Element} (hc : c ∈ es) (hmem : c.id ∈ names forest) :
    parentOf? es c = parent ∨ ∃ id ∈ names forest, parentOf? es c = some id := by
  obtain ⟨y, hy, hid⟩ := List.mem_map.1 hmem
  obtain ⟨e, he, hname, hparent⟩ := h.exists_parentId_eq hwaiting hy
  obtain rfl : e = c := List.inj_on_of_nodup_map hids he hc (hname.trans hid)
  rw [← hparent]
  have hnested : IsNested parent forest := h.isNested hids (fun e he => (hwaiting e he).1)
    fun id hid e he => (hwaiting e he).2.trans hid
  rcases hnested.parentId_of_mem h.names_forest.1 hy with ⟨hown, -⟩ | ⟨-, z, hz, -, -, hbelow⟩
  · exact .inl hown
  · exact .inr ⟨z.id, List.mem_map_of_mem hz, hbelow⟩

/-- An element that belongs neither below the parent of the walk nor below one that is built stays
unbuilt. -/
theorem mem_left (h : Nests es parent unbuilt waiting forest left) (hids : (es.map (·.id)).Nodup)
    (hwaiting : ∀ e ∈ waiting, e ∈ es ∧ parentOf? es e = parent) {c : Element} (hc : c ∈ es)
    (hmem : c.id ∈ unbuilt) (hparent : parentOf? es c ≠ parent)
    (hnames : ∀ id ∈ names forest, parentOf? es c ≠ some id) : c.id ∈ left := by
  refine h.mem_left_iff.2 ⟨hmem, fun hbuilt => ?_⟩
  rcases h.parentOf?_of_mem_names hids hwaiting hc hbuilt with hfound | ⟨id, hid, hfound⟩
  · exact hparent hfound
  · exact hnames id hid hfound

end Nests

/-- What belongs below an unbuilt element is unbuilt. -/
def IsOpen (es : List Element) (unbuilt : List String) : Prop :=
  ∀ c ∈ es, ∀ id ∈ unbuilt, parentOf? es c = some id → c.id ∈ unbuilt

/-- An element whose parent is built may be built. -/
theorem IsOpen.without (h : IsOpen es unbuilt) (hids : (es.map (·.id)).Nodup) {e : Element}
    (he : e ∈ es) (hparent : ∀ id ∈ unbuilt, parentOf? es e ≠ some id) :
    IsOpen es (Names.without unbuilt e.id) := by
  intro c hc id hid hfound
  rw [Names.mem_without] at hid ⊢
  refine ⟨h c hc id hid.1 hfound, fun hname => hparent id hid.1 ?_⟩
  rw [← hfound, List.inj_on_of_nodup_map hids hc he hname]

/-- A walk below a built parent builds nothing whose parent stays unbuilt. -/
theorem IsOpen.walk (hopen : IsOpen es unbuilt)
    (h : Nests es parent unbuilt waiting forest left) (hids : (es.map (·.id)).Nodup)
    (hwaiting : ∀ e ∈ waiting, e ∈ es ∧ parentOf? es e = parent)
    (hparent : ∀ id ∈ unbuilt, parent ≠ some id) : IsOpen es left := by
  intro c hc id hid hfound
  rw [h.mem_left_iff] at hid
  refine h.mem_left hids hwaiting hc (hopen c hc id hid.1 hfound) ?_ ?_
  · exact hfound ▸ (hparent id hid.1).symm
  · exact fun other hother => hfound ▸ fun heq => hid.2 (Option.some_inj.1 heq ▸ hother)

/-- The forest in which each element that waits has exactly the children that belong below it, in
order, and so on. -/
inductive Follows (es : List Element) : Option String → List Element → List Element → Prop
  | nil (parent : Option String) : Follows es parent [] []
  | cons {parent : Option String} {e : Element} {children waiting forest : List Element} :
    Follows es (some e.id) (childrenOf es e.id) children → Follows es parent waiting forest →
    Follows es parent (e :: waiting)
      ({ e with parentId := parent, children := children } :: forest)

/-- A walk below a built parent passes over nothing, if what belongs below unbuilt elements is
unbuilt. -/
theorem Nests.follows (h : Nests es parent unbuilt waiting forest left)
    (hids : (es.map (·.id)).Nodup) (hwaiting : ∀ e ∈ waiting, e ∈ es ∧ parentOf? es e = parent)
    (hdistinct : (waiting.map (·.id)).Nodup) (hunbuilt : ∀ e ∈ waiting, e.id ∈ unbuilt)
    (hparent : ∀ id ∈ unbuilt, parent ≠ some id) (hopen : IsOpen es unbuilt) :
    Follows es parent waiting forest := by
  induction h with
  | done parent unbuilt => exact .nil parent
  | skip hid _ _ => exact absurd (hunbuilt _ List.mem_cons_self) hid
  | @nest parent unbuilt between left e children waiting forest hid hchildren _ ihchildren
      ihforest =>
    obtain ⟨⟨he, hown⟩, hrest⟩ := List.forall_mem_cons.1 hwaiting
    rw [List.map_cons, List.nodup_cons] at hdistinct
    have hbelow : ∀ c ∈ childrenOf es e.id, c ∈ es ∧ parentOf? es c = some e.id :=
      fun c hc => mem_childrenOf.1 hc
    have hself : ∀ id ∈ Names.without unbuilt e.id, some e.id ≠ some id :=
      fun id hmem heq => (Names.mem_without.1 hmem).2 (Option.some_inj.1 heq).symm
    have hopenInner : IsOpen es (Names.without unbuilt e.id) :=
      hopen.without hids he (hown ▸ hparent)
    obtain ⟨-, hbuilt, -⟩ := hchildren.names_forest
    have hsmaller : ∀ id ∈ between, id ∈ unbuilt := fun id hmem =>
      (Names.mem_without.1 (hchildren.mem_left_iff.1 hmem).1).1
    refine .cons (ihchildren hbelow ?_ ?_ hself hopenInner) (ihforest hrest hdistinct.2 ?_
      (fun id hmem => hparent id (hsmaller id hmem)) (hopenInner.walk hchildren hids hbelow hself))
    · exact hids.sublist (List.filter_sublist.map _)
    · intro c hc
      obtain ⟨hmem, hfound⟩ := hbelow c hc
      obtain ⟨f, hf, hname⟩ := (parentOf?_eq_some_iff hmem).1 hfound
      exact Names.mem_without.2 ⟨hopen c hmem e.id hid hfound, fun h => hf.ne (hname.trans h.symm)⟩
    · -- the siblings belong below the built parent, and so below nothing that was built meanwhile
      intro x hx
      obtain ⟨hmem, hfound⟩ := hrest x hx
      have hname : x.id ≠ e.id := fun hname => hdistinct.1 (hname ▸ List.mem_map_of_mem hx)
      refine hchildren.mem_left hids hbelow hmem
        (Names.mem_without.2 ⟨hunbuilt x (List.mem_cons_of_mem _ hx), hname⟩) ?_ ?_
      · exact hfound ▸ hparent e.id hid
      · exact fun id hinner => hfound ▸ hparent id (Names.mem_without.1 (hbuilt id hinner)).1

/-- Without cycles all elements become the forest of their links. -/
theorem exists_grows_follows (hids : (es.map (·.id)).Nodup) (hacyclic : IsAcyclic es) :
    ∃ forest, Grows es forest ∧
      Follows es none (es.filter fun e => (parentOf? es e).isNone) forest := by
  obtain ⟨forest, left, h, -⟩ := exists_nests es none (es.map (·.id))
    (es.filter fun e => (parentOf? es e).isNone)
  have hfirst : ∀ e ∈ es.filter fun e => (parentOf? es e).isNone,
      e ∈ es ∧ parentOf? es e = none := by
    intro e he
    rwa [List.mem_filter, Option.isNone_iff_eq_none] at he
  have hreached : ∀ e ∈ es, e.id ∉ left := by
    refine hacyclic.induction fun e he ih => ?_
    cases hparent : parentOf? es e with
    | none =>
      refine h.not_mem_left e (List.mem_filter.2 ⟨he, ?_⟩)
      rw [hparent, Option.isNone_none]
    | some id =>
      obtain ⟨f, hf, rfl⟩ := (parentOf?_eq_some_iff he).1 hparent
      have hbuilt : f.id ∈ names forest := by
        by_contra hmem
        exact ih f hf (h.mem_left_iff.2 ⟨List.mem_map_of_mem hf.parent_mem, hmem⟩)
      exact h.not_mem_left_of_parentOf? hbuilt e (mem_childrenOf.2 ⟨he, hparent⟩)
  refine ⟨forest, ?_, h.follows hids hfirst (hids.sublist (List.filter_sublist.map _)) ?_
    (fun _ _ => nofun) fun c hc _ _ _ => List.mem_map_of_mem hc⟩
  · have hrest := h.append (.of_forall_not_mem hreached)
    rwa [List.append_nil, h.left_eq_nil hreached] at hrest
  · exact fun e he => List.mem_map_of_mem (hfirst e he).1

end Compilation

end Sitework
