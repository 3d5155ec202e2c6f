import Sitework.Proofs.Style.Canonical

/-!
# Accepted sites

An accepted site is made of accepted pages, each kept under its own name. An accepted page is made
of elements that are sound in themselves, each kept under its own name and below a parent that may
have it.
-/

namespace Sitework

/-- What a page asks of an element wherever it stands, apart from the numbers in its layers: a
name, no nested children, a level in range, accepted values, and minimal layers. -/
structure Element.IsTidy (e : Element) : Prop where
  named : e.id ≠ ""
  flat : e.children = []
  level : ∀ level, e.kind = .heading level → 1 ≤ level ∧ level ≤ 6
  allowed : ∀ s ∈ e.styles, s.IsAllowed
  minimal : Cascade.IsMinimal e.style e.responsive

/-- What a page asks of an element wherever it stands: it is tidy, and no layer holds a NaN. -/
structure Element.IsSound (e : Element) : Prop extends e.IsTidy where
  numbers : ∀ b layer, e.responsive.get b = some layer → layer.HasNoNaN

namespace Validation

variable {key : String} {page : Page} {site : Site} {e : Element}

/-- A heading has a level from one to six. -/
theorem checkLevel_eq_ok_iff : checkLevel page e = .ok () ↔
    ∀ level, e.kind = .heading level → 1 ≤ level ∧ level ≤ 6 := by
  rw [checkLevel]
  cases e.kind with
  | heading level =>
    rw [ensure_eq_ok_iff, Bool.and_eq_true, decide_eq_true_eq, decide_eq_true_eq]
    constructor
    · rintro h other ⟨⟩
      exact h
    · intro h
      exact h level rfl
  | _ => exact ⟨fun _ => nofun, fun _ => rfl⟩

/-- No layer is taken as redundant exactly if pruning leaves the same layers: they are minimal, and
no NaN in them differs from itself. -/
theorem checkMinimal_eq_ok_iff : checkMinimal page e = .ok () ↔
    Cascade.IsMinimal e.style e.responsive ∧
      ∀ b layer, e.responsive.get b = some layer → layer.HasNoNaN := by
  rw [← Cascade.sameLayer_prune_self_iff]
  simp only [checkMinimal, first_eq_ok_iff, List.forall_mem_map, ensure_eq_ok_iff,
    Option.any_eq_true]
  constructor
  · intro h b
    cases hlayer : e.responsive.get b with
    | none =>
      rw [Cascade.get_prune_of_none hlayer]
      exact .none
    | some layer =>
      obtain ⟨pruned, hpruned, hsame⟩ := h (b, layer) (Layers.mem_entries.2 hlayer)
      rw [hpruned]
      exact .some hsame
  · intro h ⟨b, layer⟩ hentry
    have hsame := h b
    rw [Layers.mem_entries.1 hentry] at hsame
    cases hpruned : (Cascade.prune e.style e.responsive).get b with
    | none => rw [hpruned] at hsame; cases hsame
    | some pruned =>
      rw [hpruned] at hsame
      cases hsame with
      | some hvalues => exact ⟨pruned, rfl, hvalues⟩

/-- A parent that is on the page has to be of a kind that may have children, and no section has a
parent. -/
theorem checkParent_eq_ok_iff : checkParent page e = .ok () ↔
    ∀ parentId, e.parentId = some parentId → e.isSection = false ∧
      ∀ parent, page.elements.get? parentId = some parent →
        parent.kind.acceptsChildren = true ∧ isCyclic page e = false := by
  rw [checkParent]
  cases e.parentId with
  | none => simp only [reduceCtorEq, false_imp_iff, implies_true]
  | some parentId =>
    simp only [Option.some.injEq, forall_eq']
    cases e.isSection with
    | true => simp only [if_true, reduceCtorEq, false_and]
    | false =>
      cases page.elements.get? parentId with
      | none => simp
      | some parent =>
        cases haccepts : parent.kind.acceptsChildren with
        | false => simp [haccepts]
        | true => simp [haccepts, ensure_eq_ok_iff]

/-- An element is accepted if it is sound, kept under its own name, and may be below its parent. -/
theorem checkElement_eq_ok_iff : checkElement page key e = .ok () ↔
    key = e.id ∧ e.IsSound ∧ checkParent page e = .ok () := by
  simp only [checkElement, bind_eq_ok_iff, ensure_eq_ok_iff, first_eq_ok_iff, List.forall_mem_map,
    checkLevel_eq_ok_iff, checkMinimal_eq_ok_iff, bne_iff_ne, beq_iff_eq, List.isEmpty_iff,
    checkStyle_eq_ok_iff]
  constructor
  · rintro ⟨hnamed, hkey, hflat, hlevel, hbase, hlayers, ⟨hminimal, hnumbers⟩, hparent⟩
    refine ⟨hkey, ⟨⟨hnamed, hflat, hlevel, ?_, hminimal⟩, hnumbers⟩, hparent⟩
    rw [Element.styles, List.forall_mem_cons, List.forall_mem_map]
    exact ⟨hbase, hlayers⟩
  · rintro ⟨hkey, ⟨⟨hnamed, hflat, hlevel, hallowed, hminimal⟩, hnumbers⟩, hparent⟩
    rw [Element.styles, List.forall_mem_cons, List.forall_mem_map] at hallowed
    exact ⟨hnamed, hkey, hflat, hlevel, hallowed.1, hallowed.2, ⟨hminimal, hnumbers⟩,
      hparent⟩

/-- A page is accepted if it has a name for files, under which it is kept, and every element is
accepted. -/
theorem checkPage_eq_ok_iff : checkPage key page = .ok () ↔
    key = page.id ∧ page.id ≠ "" ∧ (∀ c ∈ page.id.toList, isPageIdChar c = true) ∧
      ∀ id e, page.elements.get? id = some e → checkElement page id e = .ok () := by
  simp only [checkPage, bind_eq_ok_iff, ensure_eq_ok_iff, first_eq_ok_iff, List.forall_mem_map,
    bne_iff_ne, beq_iff_eq, List.all_eq_true, OrderedMap.get?_eq_some_iff, Prod.forall]
  exact and_left_comm

/-- The elements of an accepted page are sound. -/
theorem isSound_of_checkPage (h : checkPage key page = .ok ()) :
    ∀ e ∈ page.elements.values, e.IsSound := by
  intro e he
  obtain ⟨⟨id, _⟩, hentry, rfl⟩ := List.mem_map.1 he
  have helement := (checkPage_eq_ok_iff.1 h).2.2.2 id _ (OrderedMap.get?_eq_some_iff.2 hentry)
  exact (checkElement_eq_ok_iff.1 helement).2.1

/-- The elements of an accepted page are flat. -/
theorem children_eq_nil_of_checkPage (h : checkPage key page = .ok ()) :
    ∀ e ∈ page.elements.values, e.children = [] :=
  fun e he => (isSound_of_checkPage h e he).flat

/-- An accepted page is kept under its own name, which can be part of a file name. -/
theorem name_of_checkPage (h : checkPage key page = .ok ()) :
    key = page.id ∧ page.id ≠ "" ∧ ∀ c ∈ page.id.toList, isPageIdChar c = true := by
  obtain ⟨hkey, hne, hchars, -⟩ := checkPage_eq_ok_iff.1 h
  exact ⟨hkey, hne, hchars⟩

/-- Every one of some accepted pages is accepted. -/
theorem checkPage_of_checkPages {index : Option String} {entries : List (String × Page)}
    (h : checkPages index entries = .ok ()) :
    ∀ entry ∈ entries, checkPage entry.1 entry.2 = .ok () := by
  induction entries generalizing index with
  | nil => exact nofun
  | cons entry entries ih =>
    obtain ⟨key, page⟩ := entry
    unfold checkPages at h
    rw [bind_eq_ok_iff] at h
    obtain ⟨hpage, hrest⟩ := h
    refine List.forall_mem_cons.2 ⟨hpage, ?_⟩
    split at hrest
    · split at hrest
      · cases hrest
      · exact ih hrest
    · exact ih hrest

/-- Of some accepted pages at most one is marked as the front page, and none if one was before. -/
theorem isIndex_of_checkPages {index : Option String} {entries : List (String × Page)}
    (h : checkPages index entries = .ok ()) :
    (∀ entry ∈ entries, entry.2.isIndex = true → index = none) ∧
      entries.Pairwise fun first second =>
        first.2.isIndex = true → second.2.isIndex = true → False := by
  induction entries generalizing index with
  | nil => exact ⟨nofun, .nil⟩
  | cons entry entries ih =>
    obtain ⟨key, page⟩ := entry
    unfold checkPages at h
    obtain ⟨-, hrest⟩ := bind_eq_ok_iff.1 h
    rw [List.forall_mem_cons, List.pairwise_cons]
    split at hrest
    · next hindex =>
      split at hrest
      · cases hrest
      · obtain ⟨hnone, hpairs⟩ := ih hrest
        have hothers : ∀ entry ∈ entries, entry.2.isIndex = true → False := fun entry hentry hset =>
          Option.some_ne_none _ (hnone entry hentry hset)
        exact ⟨⟨fun _ => rfl, fun entry hentry hset => absurd hset (hothers entry hentry)⟩,
          fun entry hentry _ => hothers entry hentry, hpairs⟩
    · next hindex =>
      obtain ⟨hnone, hpairs⟩ := ih hrest
      exact ⟨⟨fun hset => absurd hset hindex, hnone⟩, fun _ _ hset => absurd hset hindex, hpairs⟩

/-- A page of an accepted site that is marked as the front page is the front page. -/
theorem indexPage?_of_checkSite (h : checkSite site = .ok ()) (hpage : page ∈ site.pages.values)
    (hindex : page.isIndex = true) : site.indexPage? = some page := by
  rw [checkSite, bind_eq_ok_iff] at h
  have hpairs : site.pages.values.Pairwise fun p q => p.isIndex = true → q.isIndex = true → False :=
    List.pairwise_map.2 (isIndex_of_checkPages h.2).2
  obtain ⟨before, after, hsplit⟩ := List.append_of_mem hpage
  rw [Site.indexPage?, hsplit, List.find?_append]
  have hbefore : before.find? (·.isIndex) = none := by
    rw [List.find?_eq_none]
    intro other hother hset
    rw [hsplit, List.pairwise_append] at hpairs
    exact hpairs.2.2 other hother page List.mem_cons_self hset hindex
  rw [hbefore, List.find?_cons, hindex]
  rfl

/-- Every page of an accepted site is accepted. -/
theorem checkPage_of_checkSite (h : checkSite site = .ok ()) :
    ∀ entry ∈ site.pages.entries, checkPage entry.1 entry.2 = .ok () := by
  rw [checkSite, bind_eq_ok_iff] at h
  exact checkPage_of_checkPages h.2

/-- The pages of an accepted site are kept under their own names. -/
theorem ids_of_checkSite (h : checkSite site = .ok ()) :
    site.pages.values.map (·.id) = site.pages.keys := by
  rw [OrderedMap.values, OrderedMap.keys, List.map_map]
  refine List.map_congr_left fun entry hentry => ?_
  exact (name_of_checkPage (checkPage_of_checkSite h entry hentry)).1.symm

/-- The pages of an accepted site have different names. -/
theorem nodup_ids_of_checkSite (h : checkSite site = .ok ()) :
    (site.pages.values.map (·.id)).Nodup := by
  rw [ids_of_checkSite h]
  exact site.pages.nodup

/-- The elements of an accepted site are flat. -/
theorem children_eq_nil_of_checkSite (h : checkSite site = .ok ()) :
    ∀ p ∈ site.pages.values, ∀ e ∈ p.elements.values, e.children = [] := by
  intro p hp
  obtain ⟨entry, hentry, rfl⟩ := List.mem_map.1 hp
  exact children_eq_nil_of_checkPage (checkPage_of_checkSite h entry hentry)

end Validation

end Sitework
