import Sitework.Proofs.Json.Finite
import Sitework.Proofs.Stored

/-!
# The numbers of a site come from its text

Whatever is read as a style, an element, a page or a site has no numbers but those of the value it
was read from. So the numbers of a site that was read from a text are finite.
-/

namespace Sitework

open Json (Members)

variable {P : Binary64 → Prop} {form : Json.ChoiceForm} {value : Json}

namespace Json

/-- A condition on all numbers of a value is one on the number that it is. -/
theorem Holds.of_number? (h : value.Holds P) {x : Binary64} (hx : value.number? = some x) :
    P x := by
  cases h with
  | integer hn => exact Option.some.inj hx ▸ hn
  | number hn => exact Option.some.inj hx ▸ hn
  | _ => cases hx

/-- It is one on the numbers of each member. -/
theorem Holds.of_object? (h : value.Holds P) {members : List (String × Json)}
    (hmembers : value.object? = some members) : ∀ member ∈ members, member.2.Holds P := by
  cases h with
  | object h => exact Option.some.inj hmembers ▸ h
  | _ => cases hmembers

/-- The members of a record, given by name or by position, are parts of its value. -/
theorem Holds.of_recordMembers? (h : value.Holds P) {names : List String} {members : Members}
    (hmembers : recordMembers? names value = some members) :
    ∀ member ∈ members, member.2.Holds P := by
  cases h with
  | object h => exact Option.some.inj hmembers ▸ h
  | @array items h =>
    rw [recordMembers?] at hmembers
    split at hmembers
    · obtain rfl := Option.some.inj hmembers
      exact fun member hmember => h member.2 (List.of_mem_zip hmember).2
    · cases hmembers
  | _ => cases hmembers

end Json

/-- A length that is read from a value is its number. -/
theorem Length.number?_of_ofJson? {n : Binary64} (h : ofJson? value = some (.px n)) :
    value.number? = some n := by
  unfold ofJson? at h
  split at h
  case h_4 =>
    obtain ⟨m, hm, heq⟩ := Option.map_eq_some_iff.1 h
    exact px.inj heq ▸ hm
  all_goals cases h

/-- So is the size of a track. -/
theorem TrackSize.number?_of_ofJson? {n : Binary64} (h : ofJson? value = some (.px n)) :
    value.number? = some n := by
  unfold ofJson? at h
  split at h
  · cases h
  · obtain ⟨m, hm, heq⟩ := Option.map_eq_some_iff.1 h
    exact px.inj heq ▸ hm

/-- So is a font size. -/
theorem FontSize.number?_of_ofJson? {n : Binary64} (h : ofJson? value = some (.px n)) :
    value.number? = some n := by
  rw [ofJson?] at h
  split at h
  · cases h
  · obtain ⟨m, hm, heq⟩ := Option.map_eq_some_iff.1 h
    exact px.inj heq ▸ hm

/-- The numbers of a value are those that it was read from. -/
theorem Property.numbers_of_ofJson? {p : Property} {x : p.Value} (h : p.ofJson? form value = some x)
    (hvalue : value.Holds P) : ∀ n ∈ p.numbers x, P n := by
  cases p with
  | length q =>
    cases x with
    | px n => exact List.forall_mem_singleton.2 (hvalue.of_number? (Length.number?_of_ofJson? h))
    | _ => exact List.forall_mem_nil _
  | fontSize =>
    cases x with
    | px n => exact List.forall_mem_singleton.2 (hvalue.of_number? (FontSize.number?_of_ofJson? h))
    | inherit => exact List.forall_mem_nil _
  | trackSize a =>
    cases x with
    | px n => exact List.forall_mem_singleton.2 (hvalue.of_number? (TrackSize.number?_of_ofJson? h))
    | auto => exact List.forall_mem_nil _
  | transform q => exact List.forall_mem_singleton.2 (hvalue.of_number? h)
  | _ => exact List.forall_mem_nil _

/-- A style whose values have numbers of some kind only. -/
theorem Style.forall_numbers {s : Style}
    (h : ∀ p x, s.get p = some x → ∀ n ∈ p.numbers x, P n) : ∀ n ∈ s.numbers, P n := by
  intro n hn
  obtain ⟨p, -, hn⟩ := List.mem_flatMap.1 hn
  obtain ⟨x, hx, hn⟩ := List.mem_flatMap.1 hn
  exact h p x (Option.mem_toList.1 hx) n hn

/-- The numbers of a style come from the value that it is read from. -/
theorem Style.numbers_of_ofJson? {s : Style} (h : ofJson? form value = some s)
    (hvalue : value.Holds P) : ∀ n ∈ s.numbers, P n := by
  obtain ⟨members, hmembers, h⟩ := Option.bind_eq_some_iff.1 h
  have hholds := hvalue.of_recordMembers? hmembers
  split at h
  · refine forall_numbers (Json.foldlM_induction
      (motive := fun t => ∀ p x, t.get p = some x → ∀ n ∈ p.numbers x, P n) ?_ h ?_)
    · intro t p u _ hstep ht
      obtain ⟨read, hread, hstep⟩ := Option.bind_eq_some_iff.1 hstep
      cases read with
      | none => exact Option.some.inj hstep ▸ ht
      | some x =>
        obtain rfl := Option.some.inj hstep
        obtain ⟨member, hmember, hx⟩ := Members.exists_of_optional? hread
        intro q y hy
        by_cases hq : p = q
        · subst hq
          rw [get_set_self] at hy
          exact Option.some.inj hy ▸ Property.numbers_of_ofJson? hx (hholds member hmember)
        · exact ht q y (get_set_of_ne t x hq ▸ hy)
    · exact fun p x hx => by cases (get_empty p).symm.trans hx
  · cases h

/-- The numbers of layers are those that they were read from. -/
theorem Overrides.numbers_of_ofJson? {layers : Overrides} (h : ofJson? form value = some layers)
    (hvalue : value.Holds P) : ∀ b layer, layers.get b = some layer → ∀ n ∈ layer.numbers, P n := by
  obtain ⟨members, hmembers, h⟩ := Option.bind_eq_some_iff.1 h
  have hholds := hvalue.of_object? hmembers
  refine Json.foldlM_induction (motive := fun (t : Overrides) =>
    ∀ b layer, t.get b = some layer → ∀ n ∈ layer.numbers, P n) ?_ h ?_
  · rintro t ⟨name, stored⟩ u hmember hstep ht
    obtain ⟨b, -, hstep⟩ := Option.bind_eq_some_iff.1 hstep
    obtain ⟨layer, hlayer, hstep⟩ := Option.bind_eq_some_iff.1 hstep
    obtain rfl := Option.some.inj hstep
    intro c found hfound
    rw [Layers.get_set] at hfound
    split at hfound
    · exact Option.some.inj hfound ▸ Style.numbers_of_ofJson? hlayer (hholds _ hmember)
    · exact ht c found hfound
  · exact fun b layer hlayer => by cases (Layers.get_empty b).symm.trans hlayer

namespace Element

variable {e : Element}

/-- A condition on the numbers of an element is one on those of its styles. -/
theorem forall_numbers (hstyle : ∀ n ∈ e.style.numbers, P n)
    (hlayers : ∀ b layer, e.responsive.get b = some layer → ∀ n ∈ layer.numbers, P n) :
    ∀ n ∈ e.numbers, P n := by
  rw [numbers, styles, List.flatMap_cons, List.forall_mem_append]
  refine ⟨hstyle, fun n hn => ?_⟩
  obtain ⟨layer, hlayer, hn⟩ := List.mem_flatMap.1 hn
  obtain ⟨entry, hentry, rfl⟩ := List.mem_map.1 hlayer
  obtain ⟨b, -, hb⟩ := List.mem_filterMap.1 hentry
  obtain ⟨found, hfound, rfl⟩ := Option.map_eq_some_iff.1 hb
  exact hlayers b found hfound n hn

/-- The numbers of an element come from the members that it is read from. -/
theorem numbers_of_ofMembers? {members : Members} (h : ofMembers? form members = some e)
    (hholds : ∀ member ∈ members, member.2.Holds P) : ∀ n ∈ e.numbers, P n := by
  simp only [ofMembers?, bind, Option.bind_eq_some_iff] at h
  obtain ⟨-, -, id, -, name, -, kind, -, parentId, -, style, hstyle, responsive, hresponsive,
    content, -, h⟩ := h
  obtain rfl := Option.some.inj h
  refine forall_numbers ?_ ?_
  · rcases Members.exists_of_withDefault? hstyle with rfl | ⟨member, hmember, hread⟩
    · exact Style.forall_numbers fun p x hx => by cases (Style.get_empty p).symm.trans hx
    · exact Style.numbers_of_ofJson? hread (hholds member hmember)
  · rcases Members.exists_of_withDefault? hresponsive with rfl | ⟨member, hmember, hread⟩
    · exact fun b layer hlayer => by cases (Layers.get_empty b).symm.trans hlayer
    · exact Overrides.numbers_of_ofJson? hread (hholds member hmember)

/-- So they do from a value. -/
theorem numbers_of_ofJson? (h : ofJson? form value = some e) (hvalue : value.Holds P) :
    ∀ n ∈ e.numbers, P n := by
  cases hvalue with
  | object hholds =>
    rw [ofJson?] at h
    obtain ⟨flat, hflat, h⟩ := Option.bind_eq_some_iff.1 h
    obtain ⟨nested, -, h⟩ := Option.bind_eq_some_iff.1 h
    have hnumbers := numbers_of_ofMembers? hflat hholds
    split at h
    · exact Option.some.inj h ▸ hnumbers
    · exact Option.some.inj h ▸ hnumbers
    · cases h
  | _ => rw [ofJson?] at h <;> cases h

end Element

/-- The values of a map are read from the members of its stored form. -/
theorem OrderedMap.exists_of_ofJson? {α : Type} {decode : Json → Option α} {m : OrderedMap α}
    (h : ofJson? decode value = some m) (hvalue : value.Holds P) :
    ∀ x ∈ m.values, ∃ stored : Json, stored.Holds P ∧ decode stored = some x := by
  obtain ⟨members, hmembers, h⟩ := Option.bind_eq_some_iff.1 h
  obtain ⟨entries, hentries, h⟩ := Option.bind_eq_some_iff.1 h
  obtain rfl := Option.some.inj h
  intro x hx
  obtain ⟨entry, hentry, rfl⟩ := List.mem_map.1 (snd_mem_of_mem_values_ofList hx)
  obtain ⟨member, hmember, hread⟩ := Json.exists_of_mapM hentries entry hentry
  obtain ⟨found, hfound, rfl⟩ := Option.map_eq_some_iff.1 hread
  exact ⟨member.2, hvalue.of_object? hmembers member hmember, hfound⟩

/-- So do the numbers of a page. -/
theorem Page.numbers_of_ofJson? {p : Page} (h : ofJson? form value = some p)
    (hvalue : value.Holds P) : ∀ n ∈ p.numbers, P n := by
  simp only [ofJson?, bind, Option.bind_eq_some_iff] at h
  obtain ⟨members, hmembers, id, -, name, -, title, -, isIndex, -, elements, helements, h⟩ := h
  obtain rfl := Option.some.inj h
  intro n hn
  obtain ⟨e, he, hn⟩ := List.mem_flatMap.1 hn
  rcases Members.exists_of_withDefault? helements with rfl | ⟨member, hmember, hread⟩
  · exact absurd he List.not_mem_nil
  · have hholds := hvalue.of_recordMembers? hmembers member hmember
    obtain ⟨stored, hstored, hread⟩ := OrderedMap.exists_of_ofJson? hread hholds e he
    exact Element.numbers_of_ofJson? hread hstored n hn

/-- So do the numbers of a site. -/
theorem Site.numbers_of_ofMembers? {s : Site} {members : Members}
    (h : ofMembers? form members = some s) (hholds : ∀ member ∈ members, member.2.Holds P) :
    ∀ n ∈ s.numbers, P n := by
  simp only [ofMembers?, bind, Option.bind_eq_some_iff] at h
  obtain ⟨id, -, name, -, description, -, pages, hpages, h⟩ := h
  obtain rfl := Option.some.inj h
  intro n hn
  obtain ⟨p, hp, hn⟩ := List.mem_flatMap.1 hn
  rcases Members.exists_of_withDefault? hpages with rfl | ⟨member, hmember, hread⟩
  · exact absurd hp List.not_mem_nil
  · obtain ⟨stored, hstored, hread⟩ :=
      OrderedMap.exists_of_ofJson? hread (hholds member hmember) p hp
    exact Page.numbers_of_ofJson? hread hstored n hn

end Sitework
