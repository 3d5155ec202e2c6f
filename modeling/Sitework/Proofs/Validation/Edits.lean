import Sitework.Proofs.Style.Updates
import Sitework.Proofs.Validation

/-!
# Edits of an accepted page

An update of a style changes one element of a page, and leaves it where it stands: its name, its
kind and the name of its parent stay, and so do all the chains of parents. What it does change,
the style and the layers, holds values that were there before or came with the update, and its
layers are minimal afterwards. Only a NaN is in the way: in a layer it counts as redundant, since it
differs from itself, and pruning leaves it there. So after any number of edits a page is accepted
exactly if the last value that they set in a layer is never a NaN.
-/

namespace Sitework

/-- Where an element stands: its name, its kind, and the name of its parent. -/
def Element.place (e : Element) : String × ElementKind × Option String :=
  (e.id, e.kind, e.parentId)

/-- An update leaves the element where it stands. -/
theorem Element.place_applyStyle (e : Element) (b : Breakpoint) (update : Style) :
    (e.applyStyle b update).place = e.place := rfl

/-- An update of the style of an element at a breakpoint. -/
structure StyleEdit where
  /-- The name of the element. -/
  elementId : String
  /-- Where the values are set. -/
  breakpoint : Breakpoint
  /-- The values. -/
  update : Style

namespace Page

/-- The page with the style of one element updated. A name that is not on the page changes
nothing. -/
def edit (p : Page) (change : StyleEdit) : Page :=
  match p.elements.get? change.elementId with
  | none => p
  | some e =>
    { p with
      elements := p.elements.insert change.elementId
        (e.applyStyle change.breakpoint change.update) }

/-- All elements stay where they stand if a known one gives way to one in the same place. -/
theorem places_insert {p : Page} {id : String} {e e' : Element} (h : p.elements.get? id = some e)
    (hplace : e'.place = e.place) :
    (p.elements.insert id e').map Element.place = p.elements.map Element.place := by
  have hget : (p.elements.map Element.place).get? id = some e'.place := by
    rw [OrderedMap.get?_map, h, Option.map_some, hplace]
  rw [OrderedMap.map_insert]
  exact OrderedMap.insert_of_get?_eq_some hget

variable (p : Page) (change : StyleEdit)

@[simp] theorem id_edit : (p.edit change).id = p.id := by
  rw [edit]
  split <;> rfl

/-- Under the name of an edited element the updated one is found, and the others stay. -/
theorem get?_edit (id : String) : (p.edit change).elements.get? id =
    (p.elements.get? id).map fun e =>
      if id = change.elementId then e.applyStyle change.breakpoint change.update else e := by
  rw [edit]
  cases hedited : p.elements.get? change.elementId with
  | none =>
    by_cases hid : id = change.elementId
    · rw [hid, hedited]
      rfl
    · simp [hid]
  | some e =>
    rw [OrderedMap.get?_insert]
    by_cases hid : id = change.elementId
    · rw [if_pos hid, hid, hedited, Option.map_some, if_pos rfl]
    · simp [hid]

/-- All elements stay where they stand. -/
theorem places_edit :
    (p.edit change).elements.map Element.place = p.elements.map Element.place := by
  rw [edit]
  cases hedited : p.elements.get? change.elementId with
  | none => rfl
  | some e => exact places_insert hedited (e.place_applyStyle _ _)

theorem id_foldl_edit (changes : List StyleEdit) : (changes.foldl edit p).id = p.id := by
  induction changes generalizing p with
  | nil => rfl
  | cons change later ih => rw [List.foldl_cons, ih, id_edit]

/-- So do any number of edits. -/
theorem places_foldl_edit (changes : List StyleEdit) :
    (changes.foldl edit p).elements.map Element.place = p.elements.map Element.place := by
  induction changes generalizing p with
  | nil => rfl
  | cons change later ih => rw [List.foldl_cons, ih, places_edit]

end Page

namespace Validation

section Places

variable {p q : Page} (hplaces : p.elements.map Element.place = q.elements.map Element.place)
include hplaces

/-- The elements under one name stand in the same place. -/
theorem map_place_get? (id : String) :
    (p.elements.get? id).map Element.place = (q.elements.get? id).map Element.place := by
  rw [← OrderedMap.get?_map, hplaces, OrderedMap.get?_map]

/-- A chain of parents depends on where the elements stand only. -/
theorem leaves_congr (unseen : List String) {e e' : Element} (h : e.parentId = e'.parentId) :
    leaves p.elements unseen e = leaves q.elements unseen e' := by
  -- along the chain, which takes one name from the unseen ones with each step
  induction hlength : unseen.length using Nat.strong_induction_on generalizing unseen e e' with
  | h length ih =>
    rw [leaves, leaves, h]
    cases hparent : e'.parentId with
    | none => rfl
    | some parentId =>
      rw [Option.bind_some, Option.bind_some]
      have hget := map_place_get? hplaces parentId
      cases hp : p.elements.get? parentId with
      | none =>
        rw [hp, Option.map_none, eq_comm, Option.map_eq_none_iff] at hget
        rw [hget]
      | some parent =>
        rw [hp, Option.map_some, eq_comm, Option.map_eq_some_iff] at hget
        obtain ⟨parent', hq, hsame⟩ := hget
        obtain ⟨hid, hrest⟩ := Prod.mk.inj hsame
        rw [hq]
        simp only [hid]
        split
        · next hunseen =>
          have hshorter := Names.length_without_lt hunseen
          exact ih _ (hlength ▸ hshorter) _ (Prod.mk.inj hrest).2.symm rfl
        · rfl

/-- Whether the parents lead around depends on where the elements stand only. -/
theorem isCyclic_congr {e e' : Element} (h : e.place = e'.place) :
    isCyclic p e = isCyclic q e' := by
  have hids (r : Page) : r.elements.values.map (·.id) =
      (r.elements.map Element.place).values.map Prod.fst := by
    simp only [OrderedMap.values, OrderedMap.map, List.map_map]
    rfl
  obtain ⟨hid, hrest⟩ := Prod.mk.inj h
  rw [isCyclic, isCyclic, hids p, hids q, hplaces, hid]
  exact leaves_congr hplaces _ (Prod.mk.inj hrest).2

/-- Whether an element may be below its parent depends on where the elements stand only. -/
theorem checkParent_congr {e e' : Element} (h : e.place = e'.place)
    (hparent : checkParent p e = .ok ()) : checkParent q e' = .ok () := by
  rw [checkParent_eq_ok_iff] at hparent ⊢
  obtain ⟨-, hrest⟩ := Prod.mk.inj h
  obtain ⟨hkind, hparentId⟩ := Prod.mk.inj hrest
  intro parentId hset
  obtain ⟨hsection, haccepts⟩ := hparent parentId (hparentId.trans hset)
  refine ⟨?_, fun parent hq => ?_⟩
  · rw [Element.isSection, ← hkind]
    exact hsection
  · have hget := map_place_get? hplaces parentId
    rw [hq, Option.map_some, Option.map_eq_some_iff] at hget
    obtain ⟨old, hp, hsame⟩ := hget
    obtain ⟨haccepted, hacyclic⟩ := haccepts old hp
    have hkinds : old.kind = parent.kind := congrArg (fun place => place.2.1) hsame
    rw [← hkinds, ← isCyclic_congr hplaces h]
    exact ⟨haccepted, hacyclic⟩

end Places

/-- An accepted page stays accepted if each element gives way to a sound one in the same place. -/
theorem checkPage_of_places {key : String} {p q : Page} (h : checkPage key p = .ok ())
    (hid : q.id = p.id) (hplaces : q.elements.map Element.place = p.elements.map Element.place)
    (hsound : ∀ id e, q.elements.get? id = some e → e.IsSound) : checkPage key q = .ok () := by
  rw [checkPage_eq_ok_iff] at h ⊢
  obtain ⟨hkey, hne, hchars, helements⟩ := h
  rw [hid]
  refine ⟨hkey, hne, hchars, fun id e' he' => ?_⟩
  have hget := map_place_get? hplaces id
  rw [he', Option.map_some, eq_comm, Option.map_eq_some_iff] at hget
  obtain ⟨e, he, hplace⟩ := hget
  obtain ⟨hname, -, hparent⟩ := checkElement_eq_ok_iff.1 (helements id e he)
  rw [checkElement_eq_ok_iff]
  exact ⟨hname.trans (Prod.mk.inj hplace).1, hsound id e' he',
    checkParent_congr hplaces.symm hplace hparent⟩

/-- An updated element is tidy if its values and those of the update are accepted. -/
theorem isTidy_applyStyle {e : Element} (h : e.IsTidy) (b : Breakpoint) {update : Style}
    (hupdate : update.IsAllowed) : (e.applyStyle b update).IsTidy := by
  have hlayers : ∀ c layer, e.responsive.get c = some layer → layer.IsAllowed :=
    fun c layer hlayer => h.allowed layer (Element.mem_styles_of_layer hlayer)
  obtain ⟨hbase, hupdated⟩ :=
    Cascade.meets_update (h.allowed _ List.mem_cons_self) hlayers b hupdate
  exact {
    named := h.named
    flat := h.flat
    level := h.level
    allowed := by
      intro s hs
      rcases Element.mem_styles_iff.1 hs with rfl | ⟨c, hc⟩
      · exact hbase
      · exact hupdated c s hc
    minimal := Cascade.isMinimal_update e.style e.responsive b update }

/-- The value that the last of some edits gives a property of an element at a breakpoint. -/
def lastValue? (id : String) (b : Breakpoint) (q : Property) : List StyleEdit → Option q.Value
  | [] => none
  | change :: later =>
    (lastValue? id b q later).or
      (if change.elementId = id ∧ change.breakpoint = b then change.update.get q else none)

/-- Some edits leave a NaN as the last value that they set in a layer of an element of the page. -/
def LeavesNaN (p : Page) (changes : List StyleEdit) : Prop :=
  ∃ id e b, p.elements.get? id = some e ∧ b ≠ .monitor ∧
    ∃ q : Property, q.IsNaN (lastValue? id b q changes)

/-- Edits without a NaN leave none. -/
theorem not_isNaN_lastValue? {changes : List StyleEdit}
    (h : ∀ change ∈ changes, change.update.HasNoNaN) (id : String) (b : Breakpoint)
    (q : Property) : ¬ q.IsNaN (lastValue? id b q changes) := by
  induction changes with
  | nil => exact q.not_isNaN_none
  | cons change later ih =>
    rw [List.forall_mem_cons] at h
    rw [lastValue?, Property.isNaN_or]
    rintro (hlater | ⟨-, hnan⟩)
    · exact ih h.2 hlater
    · split at hnan
      · exact Style.hasNoNaN_iff.1 h.1 q hnan
      · exact q.not_isNaN_none hnan

/-- What edits make of an element. It is tidy, what is stored for the base stays, and a layer below
it holds a NaN exactly if the last value that they set there is one, or they set none and the layer
held one before. -/
structure IsEdited (id : String) (changes : List StyleEdit) (e e' : Element) : Prop where
  tidy : e'.IsTidy
  base : e'.responsive.get .monitor = e.responsive.get .monitor
  layers : ∀ b, b ≠ .monitor → ∀ q : Property,
    q.IsNaN (Cascade.layerValue? e'.responsive b q) ↔
      q.IsNaN ((lastValue? id b q changes).or (Cascade.layerValue? e.responsive b q))

/-- One edit with accepted values. -/
theorem isEdited_singleton {id : String} {e : Element} (h : e.IsTidy) {change : StyleEdit}
    (hchange : change.elementId = id → change.update.IsAllowed) :
    IsEdited id [change] e
      (if id = change.elementId then e.applyStyle change.breakpoint change.update else e) := by
  split
  · next hid =>
    refine ⟨isTidy_applyStyle h _ (hchange hid.symm), Cascade.get_update_monitor _ _ _ _,
      fun b hb q => ?_⟩
    subst hid
    simp only [lastValue?, Option.none_or, true_and]
    exact Cascade.isNaN_update e.style e.responsive change.breakpoint change.update q hb
  · next hid =>
    refine ⟨h, rfl, fun b hb q => ?_⟩
    rw [lastValue?, lastValue?, Option.none_or, if_neg fun hsame => hid hsame.1.symm,
      Option.none_or]

/-- An edit before others. -/
theorem IsEdited.cons {id : String} {change : StyleEdit} {later : List StyleEdit}
    {e e₁ e₂ : Element} (hfirst : IsEdited id [change] e e₁) (hlater : IsEdited id later e₁ e₂) :
    IsEdited id (change :: later) e e₂ where
  tidy := hlater.tidy
  base := hlater.base.trans hfirst.base
  layers b hb q := by
    have hown := hfirst.layers b hb q
    rw [lastValue?, lastValue?, Option.none_or] at hown
    rw [hlater.layers b hb q, Property.isNaN_or, hown, ← Property.isNaN_or, lastValue?,
      Option.or_assoc]

/-- On an edited page stand the edited elements. -/
theorem exists_isEdited {p : Page} {changes : List StyleEdit} {id : String} {e : Element}
    (he : p.elements.get? id = some e) (h : e.IsTidy)
    (hchanges : ∀ change ∈ changes, change.elementId = id → change.update.IsAllowed) :
    ∃ e', (changes.foldl Page.edit p).elements.get? id = some e' ∧ IsEdited id changes e e' := by
  induction changes generalizing p e with
  | nil =>
    refine ⟨e, he, h, rfl, fun b _ q => ?_⟩
    rw [lastValue?, Option.none_or]
  | cons change later ih =>
    rw [List.forall_mem_cons] at hchanges
    have hfirst := isEdited_singleton h hchanges.1
    have hget := p.get?_edit change id
    rw [he, Option.map_some] at hget
    obtain ⟨e', he', hlater⟩ := ih hget hfirst.tidy hchanges.2
    exact ⟨e', he', hfirst.cons hlater⟩

section Edited

variable {key : String} {p : Page} {changes : List StyleEdit} (h : checkPage key p = .ok ())
  (hchanges : ∀ change ∈ changes, ∀ e, p.elements.get? change.elementId = some e →
    checkStyle p e change.update = .ok ())

include h hchanges

/-- Each element of an accepted page is still there after edits with accepted values. -/
theorem exists_isEdited_of_checkPage {id : String} {e : Element}
    (he : p.elements.get? id = some e) :
    ∃ e', (changes.foldl Page.edit p).elements.get? id = some e' ∧ IsEdited id changes e e' := by
  have hsound := isSound_of_checkPage h e (OrderedMap.mem_values_of_get? he)
  refine exists_isEdited he hsound.toIsTidy fun change hchange hid => ?_
  exact checkStyle_eq_ok_iff.1 (hchanges change hchange e (hid ▸ he))

/-- An accepted page with a NaN that edits leave in a layer is refused. -/
theorem not_leavesNaN_of_checkPage
    (hfinal : checkPage key (changes.foldl Page.edit p) = .ok ()) : ¬ LeavesNaN p changes := by
  rintro ⟨id, e, b, he, hb, q, hnan⟩
  obtain ⟨e', he', hresult⟩ := exists_isEdited_of_checkPage h hchanges he
  have hnumbers := (isSound_of_checkPage hfinal e' (OrderedMap.mem_values_of_get? he')).numbers
  refine Cascade.hasNoNaN_layer_iff.1 (hnumbers b) q ((hresult.layers b hb q).2 ?_)
  exact Property.isNaN_or.2 (.inl hnan)

/-- Without such a NaN each of its elements is sound. -/
theorem isSound_of_not_leavesNaN (hleaves : ¬ LeavesNaN p changes) {id : String} {e' : Element}
    (he' : (changes.foldl Page.edit p).elements.get? id = some e') : e'.IsSound := by
  have hplace := map_place_get? (Page.places_foldl_edit p changes) id
  rw [he', Option.map_some, eq_comm, Option.map_eq_some_iff] at hplace
  obtain ⟨e, he, -⟩ := hplace
  obtain ⟨_, hget, hresult⟩ := exists_isEdited_of_checkPage h hchanges he
  obtain rfl := Option.some_inj.1 (hget.symm.trans he')
  have hnumbers := (isSound_of_checkPage h e (OrderedMap.mem_values_of_get? he)).numbers
  refine ⟨hresult.tidy, fun b => ?_⟩
  by_cases hb : b = .monitor
  · rw [hb, hresult.base]
    exact hnumbers .monitor
  · refine Cascade.hasNoNaN_layer_iff.2 fun q hnan => ?_
    rw [hresult.layers b hb q, Property.isNaN_or] at hnan
    rcases hnan with hlast | ⟨-, hold⟩
    · exact hleaves ⟨id, e, b, he, hb, q, hlast⟩
    · exact Cascade.hasNoNaN_layer_iff.1 (hnumbers b) q hold

end Edited

/-- After any number of edits with accepted values, an accepted page is accepted exactly if they
leave no NaN in a layer. So it is if none of them sets a NaN. -/
theorem checkPage_foldl_edit {key : String} {p : Page} {changes : List StyleEdit}
    (h : checkPage key p = .ok ())
    (hchanges : ∀ change ∈ changes, ∀ e, p.elements.get? change.elementId = some e →
      checkStyle p e change.update = .ok ()) :
    (checkPage key (changes.foldl Page.edit p) = .ok () ↔ ¬ LeavesNaN p changes) ∧
      ((∀ change ∈ changes, change.update.HasNoNaN) →
        checkPage key (changes.foldl Page.edit p) = .ok ()) := by
  have haccepted (hleaves : ¬ LeavesNaN p changes) :
      checkPage key (changes.foldl Page.edit p) = .ok () :=
    checkPage_of_places h (Page.id_foldl_edit p changes) (Page.places_foldl_edit p changes)
      fun _ _ he' => isSound_of_not_leavesNaN h hchanges hleaves he'
  refine ⟨⟨not_leavesNaN_of_checkPage h hchanges, haccepted⟩, fun hnumbers => haccepted ?_⟩
  rintro ⟨id, -, b, -, -, q, hnan⟩
  exact not_isNaN_lastValue? hnumbers id b q hnan

/-- A box with a title in it, which has another color on narrower viewports. -/
def banner : Page :=
  (Page.new "home" "Home").insertAll
    [Element.new "banner" .container,
      { Element.new "title" (.heading 1) with
        parentId := some "banner"
        style := { color := some "red" }
        responsive := { laptop := some { color := some "blue" } } }]

/-- The title gets the color of its layer at the base, and the box a font family on tablets. -/
def bannerChanges : List StyleEdit :=
  [⟨"title", .monitor, { color := some "blue" }⟩,
    ⟨"banner", .tablet, { fontFamily := some "Inter" }⟩]

/-- The box is turned on tablets, by no number of degrees. -/
def bannerTurn : StyleEdit :=
  ⟨"banner", .tablet, { rotate := some .nan }⟩

theorem checkPage_foldl_edit_banner : checkPage "home" banner = .ok () ∧
    checkPage "home" (bannerChanges.foldl Page.edit banner) = .ok () ∧
    (∀ e, checkStyle banner e bannerTurn.update = .ok ()) ∧ LeavesNaN banner [bannerTurn] ∧
    checkPage "home" (banner.edit bannerTurn) =
      .error (.redundantOverride "home" "banner" .tablet) := by
  have haccepted : checkPage "home" banner = .ok () := by decide +kernel
  refine ⟨haccepted, (checkPage_foldl_edit haccepted ?_).2 ?_, fun _ => rfl, ?_, by decide +kernel⟩
  · rw [bannerChanges, List.forall_mem_cons, List.forall_mem_singleton]
    exact ⟨fun _ _ => rfl, fun _ _ => rfl⟩
  · rw [bannerChanges, List.forall_mem_cons, List.forall_mem_singleton]
    exact ⟨Style.sameValues_self_iff.1 (by decide +kernel),
      Style.sameValues_self_iff.1 (by decide +kernel)⟩
  · exact ⟨"banner", Element.new "banner" .container, .tablet, rfl, nofun, .transform .rotate, .nan,
      rfl, List.mem_singleton_self _⟩

end Validation

end Sitework
