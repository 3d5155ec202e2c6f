import Sitework.Proofs.Compilation.Assembled
import Sitework.Proofs.Compilation.Represented

/-!
# Tags and attributes of compiled nodes

The nodes of a compiled tree have tags and attributes from two short lists. Of these tags, those of
images and input fields have no content in HTML, and indeed such nodes have neither text nor
children, as long as no two elements share a name.
-/

namespace Sitework

namespace Compilation

/-- The tags of nodes. -/
def tagNames : List String :=
  ["body", labelTag, "section", "div", "h1", "h2", "h3", "h4", "h5", "h6", "p", "a", "button",
    "img", "input"]

/-- The attributes of elements. -/
def attributeNames : List String :=
  ["href", "src", blobAttribute, "alt", "type", "placeholder", "autocomplete"]

/-- Every kind has one of the known tags. -/
theorem tag_mem_tagNames (kind : ElementKind) : kind.tag ∈ tagNames := by
  cases kind with
  | heading level =>
    rw [ElementKind.tag, ElementKind.headingTag]
    split_ifs <;> decide
  | button href => cases href <;> simp [ElementKind.tag, tagNames]
  | _ => simp [ElementKind.tag, tagNames]

/-- Every kind has known attributes only. -/
theorem mem_attributeNames (kind : ElementKind) :
    ∀ name ∈ (kindAttributes kind).map Prod.fst, name ∈ attributeNames := by
  cases kind with
  | image source alt =>
    cases source <;> cases alt <;>
      simp [kindAttributes, sourceAttributes, optionalAttribute, attributeNames]
  | button href => cases href <;> simp [kindAttributes, optionalAttribute, attributeNames]
  | input type placeholder autocomplete =>
    cases placeholder <;> simp [kindAttributes, optionalAttribute, attributeNames]
  | link href => simp [kindAttributes, attributeNames]
  | _ => exact nofun

/-- A node with one of the tags and some of the attributes. -/
structure HasNames (n : MarkupNode) : Prop where
  tag : n.tag ∈ tagNames
  attributes : ∀ name ∈ n.attributes.keys, name ∈ attributeNames

variable {cache : DeclarationCache} {b : Breakpoint} {es : List Element} {t u : MarkupTree}
  {i : Nat} {n : MarkupNode}

/-- The nodes of a compiled tree are of this kind. -/
theorem IsPart.hasNames (h : IsPart cache b es t i n) : HasNames n := by
  cases h with
  | root _ hn => exact hn ▸ ⟨by decide, nofun⟩
  | helper _ _ _ _ hn => exact hn ▸ ⟨(by decide : labelTag ∈ tagNames), nofun⟩
  | @element e _ hn =>
    subst hn
    exact ⟨tag_mem_tagNames e.kind, fun name hname =>
      mem_attributeNames e.kind name (OrderedMap.mem_keys_ofList.1 hname)⟩

/-- Images and input fields have no content. -/
theorem isVoid_nodeOf {e : Element} (h : (nodeOf cache b e).isVoid = true) :
    nodeText e = none ∧ e.kind.acceptsChildren = false ∧ ∀ href, e.kind ≠ .button href := by
  have hvoid : ["img", "input", "br", "hr", "meta", "link"].contains e.kind.tag = true := h
  rw [nodeText]
  cases hkind : e.kind with
  | image source alt => exact ⟨rfl, rfl, nofun⟩
  | input type placeholder autocomplete => exact ⟨rfl, rfl, nofun⟩
  | heading level =>
    rw [hkind, ElementKind.tag, ElementKind.headingTag] at hvoid
    split_ifs at hvoid <;> exact absurd hvoid (by decide)
  | button href =>
    rw [hkind] at hvoid
    cases href <;> exact Bool.noConfusion hvoid
  | _ =>
    rw [hkind] at hvoid
    exact Bool.noConfusion hvoid

/-- Nodes whose tags have no content have no text. -/
theorem IsPart.text_eq_none (h : IsPart cache b es t i n) (hvoid : n.isVoid = true) :
    n.text = none := by
  cases h with
  | root _ hn => exact absurd hvoid (hn ▸ by decide)
  | helper _ _ _ _ hn => exact Bool.noConfusion (hn ▸ hvoid : (labelOf _).isVoid = true)
  | element _ hn => exact hn ▸ (isVoid_nodeOf (hn ▸ hvoid)).1

/-- There is nothing below nodes whose tags have no content. -/
def VoidsAreEmpty (t : MarkupTree) : Prop :=
  ∀ i n, t.get? i = some n → n.isVoid = true → t.children i = []

namespace VoidsAreEmpty

variable {parent : Nat}

/-- Nodes are added below nodes that have content. -/
theorem push (h : VoidsAreEmpty t) (hparent : ∃ n, t.get? parent = some n ∧ n.isVoid = false)
    (m : MarkupNode) : VoidsAreEmpty (t.push (some parent) m) := by
  obtain ⟨p, hp, hopen⟩ := hparent
  have hlt := MarkupTree.lt_size_of_get? hp
  intro i n hget hvoid
  rw [MarkupTree.children_push hlt]
  rcases MarkupTree.get?_push_eq_some.1 hget with hold | ⟨rfl, rfl⟩
  · have hne : i ≠ parent := by
      rintro rfl
      rw [hp] at hold
      rw [Option.some.inj hold, hvoid] at hopen
      cases hopen
    rw [h i n hold hvoid, if_neg hne, List.append_nil]
  · rw [MarkupTree.children_of_size_le (Nat.le_refl _), if_neg hlt.ne', List.append_nil]

/-- The helper of a button is below the node of that button, which has content. -/
theorem attach (h : VoidsAreEmpty t) (hparent : ∃ n, t.get? parent = some n ∧ n.isVoid = false)
    (e : Element) : VoidsAreEmpty (attach cache b t parent e).1 := by
  have hnode := h.push hparent (nodeOf cache b e)
  unfold Compilation.attach MarkupTree.insertChild
  simp only
  split
  · next href hkind =>
    refine hnode.push ⟨_, MarkupTree.get?_push_size _, Bool.eq_false_iff.2 fun hvoid => ?_⟩ _
    exact (isVoid_nodeOf hvoid).2.2 href hkind
  · exact hnode

/-- Building adds nodes below the root, and below elements that may have children. -/
theorem build (h : VoidsAreEmpty t) (hids : (es.map (·.id)).Nodup) (unbuilt : List String)
    {waiting : List (Nat × Element)}
    (hwaiting : ∀ w ∈ waiting, (∃ n, t.get? w.1 = some n ∧ n.isVoid = false) ∧ w.2 ∈ es) :
    VoidsAreEmpty (Compilation.build cache b es unbuilt waiting t) := by
  fun_induction Compilation.build cache b es unbuilt waiting t with
  | case1 unbuilt t => exact h
  | case2 unbuilt t parent e waiting hid u i hattach ih =>
    obtain ⟨⟨hparent, he⟩, hrest⟩ := List.forall_mem_cons.1 hwaiting
    have hsize : parent < t.size := hparent.elim fun n hn => MarkupTree.lt_size_of_get? hn.1
    obtain ⟨v, hv, hattached⟩ := exists_attach cache b hsize e
    obtain ⟨rfl, rfl⟩ := Prod.mk.inj (hattach.symm.trans hv)
    have hempty : VoidsAreEmpty (Compilation.attach cache b t parent e).1 := h.attach hparent e
    rw [hattach] at hempty
    refine ih hempty fun w hw => ?_
    rcases List.mem_append.1 hw with hw | hw
    · obtain ⟨c, hc, rfl⟩ := List.mem_map.1 hw
      refine ⟨⟨_, hattached.get?_eq, Bool.eq_false_iff.2 fun hvoid => ?_⟩,
        List.mem_of_mem_filter hc⟩
      -- what belongs below the element names it as a kind that may have children
      obtain ⟨e', he', hid', haccepts⟩ :=
        exists_container_of_parentOf? (beq_iff_eq.1 (List.mem_filter.1 hc).2)
      rw [List.inj_on_of_nodup_map hids he' he hid', (isVoid_nodeOf hvoid).2.1] at haccepts
      cases haccepts
    · obtain ⟨⟨n, hget, hopen⟩, hw⟩ := hrest w hw
      have hkept := hattached.grown.get? w.1 (MarkupTree.lt_size_of_get? hget)
      exact ⟨⟨n, hkept.trans hget, hopen⟩, hw⟩
  | case3 unbuilt t parent e waiting hid ih => exact ih h (List.forall_mem_cons.1 hwaiting).2

end VoidsAreEmpty

/-- Images and input fields have nothing below them, if no two elements share a name. -/
theorem voidsAreEmpty_compile (hids : (es.map (·.id)).Nodup) (b : Breakpoint) :
    VoidsAreEmpty (compile es b) := by
  have hroot : VoidsAreEmpty (MarkupTree.empty.insertRoot MarkupNode.root).1 := by
    intro i n hget hvoid
    have hi : i < 1 := MarkupTree.lt_size_of_get? hget
    obtain rfl := Nat.lt_one_iff.1 hi
    rfl
  refine hroot.build hids _ fun w hw => ?_
  obtain ⟨e, he, rfl⟩ := List.mem_map.1 hw
  exact ⟨⟨.root, rfl, by decide⟩, (List.mem_append.1 he).elim List.mem_of_mem_filter id⟩

end Compilation

end Sitework
