import Sitework.Proofs.OrderedMap
import Sitework.Proofs.Style.Stored
import Sitework.Stored

/-!
# The stored form of pages and sites

Elements without nested children, pages of such elements and sites of such pages are read back from
their stored form. The stored form holds no numbers but those of the styles and nests containers
no deeper than the records are nested.
-/

namespace Sitework

open Json (Members optionalMember)

/-- An optional text holds no numbers. -/
private theorem within_of_mem_optionalMember {P : Binary64 → Prop} {depth : Nat} {key : String}
    {value : Option String} :
    ∀ member ∈ optionalMember key (value.map .string), member.2.Within P depth := by
  cases value with
  | none => exact nofun
  | some text => exact List.forall_mem_singleton.2 (.string _ text)

/-- An optional text is read as it was written. -/
private theorem optional?_string {members : Members} {name : String} {value : Option String}
    (h : members.values name = (value.map Json.string).toList) :
    members.optional? name Json.string? = some value :=
  Members.optional?_of_values h fun _ _ => ⟨rfl, Json.noConfusion⟩

namespace ImageSource

/-- A stored source of an image is read back. -/
theorem ofJson?_toJson (source : ImageSource) : ofJson? source.toJson = some source := by
  cases source <;> rfl

end ImageSource

namespace ElementKind

/-- The members of a kind are its name and its fields. -/
theorem values_toMembers {kind : ElementKind} {name : String} (hname : name ≠ "name")
    (hfield : name ∉ fieldNames kind.name) : kind.toMembers.values name = [] := by
  cases kind <;> simp_all [toMembers, fieldNames, ElementKind.name, eq_comm]

/-- A kind is read from among members that have its fields. -/
theorem ofMembers?_toMembers {kind : ElementKind} {members : Members}
    (h : ∀ name ∈ fieldNames kind.name, members.values name = kind.toMembers.values name) :
    ofMembers? kind.name members = some kind := by
  cases kind with
  | heading level =>
    have hvalue : Json.integer? 0 255 (.integer level.toNat) = some (level.toNat : Int) := by
      have := UInt8.toNat_lt level
      exact if_pos (by omega)
    have hlevel : members.values "level" = [.integer level.toNat] := by
      simpa [fieldNames, ElementKind.name, toMembers] using h
    simp [ofMembers?, ElementKind.name, Members.required?_of_values hlevel, hvalue]
  | button href =>
    have hhref : members.values "href" = (href.map Json.string).toList := by
      simpa [fieldNames, ElementKind.name, toMembers] using h
    simp [ofMembers?, ElementKind.name, optional?_string hhref]
  | link href =>
    have hhref : members.values "href" = [.string href] := by
      simpa [fieldNames, ElementKind.name, toMembers] using h
    simp [ofMembers?, ElementKind.name, Members.required?_of_values hhref, Json.string?]
  | image source alt =>
    obtain ⟨hsource, halt⟩ : members.values "source" = [source.toJson] ∧
        members.values "alt" = (alt.map Json.string).toList := by
      simpa [fieldNames, ElementKind.name, toMembers] using h
    simp [ofMembers?, ElementKind.name, Members.required?_of_values hsource, source.ofJson?_toJson,
      optional?_string halt]
  | input type placeholder autocomplete =>
    obtain ⟨htype, hplaceholder, hautocomplete⟩ :
        members.values "inputType" = [.string type.name] ∧
        members.values "placeholder" = (placeholder.map Json.string).toList ∧
        members.values "autocomplete" = [.bool autocomplete] := by
      simpa [fieldNames, ElementKind.name, toMembers] using h
    simp [ofMembers?, ElementKind.name, Members.required?_of_values htype, Json.choice?,
      InputType.ofName?_name, optional?_string hplaceholder,
      Members.withDefault?_of_values hautocomplete, Json.bool?]
  | _ => rfl

/-- A kind is stored under its name. -/
theorem values_toMembers_name (kind : ElementKind) :
    kind.toMembers.values "name" = [.string kind.name] := by
  cases kind <;> simp [toMembers, ElementKind.name]

/-- The fields of kinds have other names than the members that all elements have. -/
theorem not_mem_of_mem_fieldNames {kind name : String} (h : name ∈ fieldNames kind) :
    name ∉ ["id", "name", "parentId", "style", "responsive", "content", "children"] := by
  have hall : ∀ field ∈ fieldNames kind,
      field ∉ ["id", "name", "parentId", "style", "responsive", "content", "children"] := by
    unfold fieldNames
    split <;> decide
  exact hall name h

/-- A kind has none of the members that all elements have but the name. -/
theorem values_toMembers_of_mem {kind : ElementKind} {name : String}
    (h : name ∈ ["id", "parentId", "style", "responsive", "content", "children"]) :
    kind.toMembers.values name = [] := by
  refine values_toMembers ?_ fun hfield => not_mem_of_mem_fieldNames hfield ?_
  · rintro rfl
    exact absurd h (by decide)
  · simp only [List.mem_cons, List.not_mem_nil, or_false] at h ⊢
    tauto

/-- A stored kind holds no floating-point numbers. -/
theorem within_of_mem_toMembers {P : Binary64 → Prop} {kind : ElementKind}
    {member : String × Json} (h : member ∈ kind.toMembers) : member.2.Within P 1 := by
  rcases List.mem_cons.1 h with rfl | h
  · exact .string _ _
  · cases kind with
    | heading level =>
      obtain rfl := List.mem_singleton.1 h
      have := UInt8.toNat_lt level
      exact .integer _ (by omega) (by omega)
    | button href => exact within_of_mem_optionalMember _ h
    | link href =>
      obtain rfl := List.mem_singleton.1 h
      exact .string _ _
    | image source alt =>
      rcases List.mem_cons.1 h with rfl | h
      · cases source <;> exact .object (List.forall_mem_singleton.2 (.string _ _))
      · exact within_of_mem_optionalMember _ h
    | input type placeholder autocomplete =>
      rcases List.mem_cons.1 h with rfl | h
      · exact .string _ _
      · rcases List.mem_append.1 h with h | h
        · exact within_of_mem_optionalMember _ h
        · obtain rfl := List.mem_singleton.1 h
          exact .bool _ _
    | _ => exact absurd h List.not_mem_nil

end ElementKind

/-- Without a layer at any class there are no layers. -/
theorem Layers.eq_empty_of_isEmpty {α : Type} {layers : Layers α} (h : layers.isEmpty = true) :
    layers = empty := by
  refine ext_get fun b => ?_
  rw [isEmpty, List.isEmpty_iff, keys, List.filter_eq_nil_iff] at h
  rw [get_empty]
  exact Option.not_isSome_iff_eq_none.1 (h b b.mem_all)

namespace Element

/-- The numbers in the styles of an element. -/
def numbers (e : Element) : List Binary64 :=
  e.styles.flatMap Style.numbers

/-- The members of the stored form of an element without nested children. -/
def members (e : Element) : Members :=
  ("id", .string e.id) :: e.kind.toMembers ++
    optionalMember "parentId" (e.parentId.map .string) ++
    [("style", e.style.toJson)] ++
    (if e.responsive.isEmpty then [] else [("responsive", Overrides.toJson e.responsive)]) ++
    optionalMember "content" (e.content.map .string)

variable {e : Element}

/-- An element without children is stored as its own members. -/
theorem toJson_eq (h : e.children = []) : e.toJson = .object e.members := by
  obtain ⟨id, kind, parentId, style, responsive, content, children⟩ := e
  obtain rfl : children = [] := h
  rw [toJson, members, List.append_nil]

/-- The members of an element hold the numbers of its styles. -/
theorem within_members {P : Binary64 → Prop} (h : ∀ n ∈ e.numbers, P n) :
    (Json.object e.members).Within P 3 := by
  have hstyle (s : Style) (hs : s ∈ e.styles) : ∀ n ∈ s.numbers, P n :=
    fun n hn => h n (List.mem_flatMap.2 ⟨s, hs, hn⟩)
  have hbase : e.style.toJson.Within P 2 :=
    (Style.within_toJson (hstyle _ List.mem_cons_self)).mono (by decide)
  have hlayers : (Overrides.toJson e.responsive).Within P 2 :=
    Overrides.within_toJson fun entry hentry =>
      hstyle _ (List.mem_cons_of_mem _ (List.mem_map_of_mem hentry))
  refine .object ?_
  unfold members
  simp only [List.forall_mem_append, List.forall_mem_cons]
  refine ⟨⟨⟨⟨⟨.string _ _, fun member hmember => ?_⟩, within_of_mem_optionalMember⟩, hbase, nofun⟩,
    ?_⟩, within_of_mem_optionalMember⟩
  · exact (ElementKind.within_of_mem_toMembers hmember).mono (by decide)
  · split
    · exact nofun
    · exact List.forall_mem_singleton.2 hlayers

/-- Every member of an element can be held. -/
theorem haveReadable_members (e : Element) : Json.haveReadable e.members = true :=
  (within_members (e := e) (P := fun _ => True) fun _ _ => trivial).isReadable

/-- An element without nested children is read from its members. -/
theorem ofMembers?_members (form : Json.ChoiceForm) (h : e.children = []) :
    ofMembers? form e.members = some e := by
  have hfields : ∀ name ∈ ElementKind.fieldNames e.kind.name,
      e.members.values name = e.kind.toMembers.values name := by
    intro name hname
    have hother := ElementKind.not_mem_of_mem_fieldNames hname
    simp only [List.mem_cons, List.not_mem_nil, or_false, not_or] at hother
    obtain ⟨hid, -, hparent, hstyle, hlayers, hcontent, -⟩ := hother
    unfold members
    split <;> simp [Ne.symm hid, Ne.symm hparent, Ne.symm hstyle, Ne.symm hlayers, Ne.symm hcontent]
  have hkind := ElementKind.ofMembers?_toMembers hfields
  have hid : e.members.values "id" = [.string e.id] := by
    unfold members
    split <;> simp [ElementKind.values_toMembers_of_mem]
  have hname : e.members.values "name" = [.string e.kind.name] := by
    unfold members
    split <;> simp [ElementKind.values_toMembers_name]
  have hparent : e.members.values "parentId" = (e.parentId.map Json.string).toList := by
    unfold members
    split <;> simp [ElementKind.values_toMembers_of_mem]
  have hstyle : e.members.values "style" = [e.style.toJson] := by
    unfold members
    split <;> simp [ElementKind.values_toMembers_of_mem]
  have hlayers : e.members.withDefault? "responsive" Layers.empty (Overrides.ofJson? form) =
      some e.responsive := by
    by_cases hempty : e.responsive.isEmpty = true
    · rw [Members.withDefault?_of_nil, Layers.eq_empty_of_isEmpty hempty]
      simp [members, hempty, ElementKind.values_toMembers_of_mem]
    · rw [Members.withDefault?_of_values, Overrides.ofJson?_toJson]
      simp [members, hempty, ElementKind.values_toMembers_of_mem]
  have hcontent : e.members.values "content" = (e.content.map Json.string).toList := by
    unfold members
    split <;> simp [ElementKind.values_toMembers_of_mem]
  have hread : ofMembers? form e.members = some { e with children := [] } := by
    simp [ofMembers?, guard, haveReadable_members, Members.required?_of_values hid, Json.string?,
      Members.required?_of_values hname, ElementKind.nameOf?, hkind, optional?_string hparent,
      Members.withDefault?_of_values hstyle, Style.ofJson?_toJson, hlayers,
      optional?_string hcontent]
  have hsame : { e with children := [] } = e := by
    cases e
    cases h
    rfl
  rw [hread, hsame]

/-- Without a member for nested children there are none. -/
private theorem nestedIn?_eq_nil {form : Json.ChoiceForm} {members : Members}
    (h : members.values "children" = []) : nestedIn? form members = some [] := by
  induction members with
  | nil => rw [nestedIn?]
  | cons member members ih =>
    obtain ⟨key, value⟩ := member
    rw [Members.values_cons] at h
    by_cases hkey : key = "children"
    · rw [if_pos hkey] at h
      exact absurd h (List.cons_ne_nil _ _)
    · rw [if_neg hkey] at h
      cases value <;> simp [nestedIn?, hkey, ih h]

/-- An element without nested children is read from its stored form. -/
theorem ofJson?_toJson (form : Json.ChoiceForm) (h : e.children = []) :
    ofJson? form e.toJson = some e := by
  have hvalues : e.members.values "children" = [] := by
    unfold members
    split <;> simp [ElementKind.values_toMembers_of_mem]
  have hnested : nestedIn? form e.members = some [] := nestedIn?_eq_nil hvalues
  rw [toJson_eq h, ofJson?, ofMembers?_members form h]
  simp [hnested]

end Element

namespace OrderedMap

variable {α : Type} {m : OrderedMap α} {encode : α → Json}

/-- A map is read from its stored form if its values are. -/
theorem ofJson?_toJson {decode : Json → Option α}
    (h : ∀ x ∈ m.values, decode (encode x) = some x) :
    ofJson? decode (m.toJson encode) = some m := by
  let read (entry : String × Json) : Option (String × α) :=
    (decode entry.2).map (entry.1, ·)
  let write (entry : String × α) : String × Json := (entry.1, encode entry.2)
  have hall (entries : List (String × α))
      (h : ∀ entry ∈ entries, decode (encode entry.2) = some entry.2) :
      (entries.map write).mapM read = some entries := by
    induction entries with
    | nil => rfl
    | cons entry entries ih =>
      obtain ⟨hentry, hentries⟩ := List.forall_mem_cons.1 h
      rw [List.map_cons, List.mapM_cons, ih hentries]
      simp [read, write, hentry]
  have hread : ofJson? decode (m.toJson encode) =
      ((m.entries.map write).mapM read).bind fun entries => some (ofList entries) := rfl
  rw [hread, hall m.entries fun entry hentry => h entry.2 (List.mem_map_of_mem hentry),
    Option.bind_some, ofList_entries]

/-- A stored map nests its values one deeper. -/
theorem within_toJson {P : Binary64 → Prop} {depth : Nat}
    (h : ∀ x ∈ m.values, (encode x).Within P depth) : (m.toJson encode).Within P (depth + 1) := by
  refine .object fun member hmember => ?_
  obtain ⟨entry, hentry, rfl⟩ := List.mem_map.1 hmember
  exact h entry.2 (List.mem_map_of_mem hentry)

end OrderedMap

namespace Page

/-- The numbers in the styles of a page. -/
def numbers (p : Page) : List Binary64 :=
  p.elements.values.flatMap Element.numbers

/-- The members of the stored form. -/
def members (p : Page) : Members :=
  [("id", .string p.id), ("name", .string p.name)] ++
    optionalMember "title" (p.title.map .string) ++
    [("isIndex", .bool p.isIndex), ("elements", p.elements.toJson Element.toJson)]

variable {p : Page}

/-- A page of elements without nested children is read from its stored form. -/
theorem ofJson?_toJson (form : Json.ChoiceForm) (h : ∀ e ∈ p.elements.values, e.children = []) :
    ofJson? form p.toJson = some p := by
  have hid : p.members.values "id" = [.string p.id] := by simp [members]
  have hname : p.members.values "name" = [.string p.name] := by simp [members]
  have htitle : p.members.values "title" = (p.title.map Json.string).toList := by simp [members]
  have hindex : p.members.values "isIndex" = [.bool p.isIndex] := by simp [members]
  have helements : p.members.values "elements" = [p.elements.toJson Element.toJson] := by
    simp [members]
  have hread : OrderedMap.ofJson? (Element.ofJson? form) (p.elements.toJson Element.toJson) =
      some p.elements :=
    OrderedMap.ofJson?_toJson fun e he => Element.ofJson?_toJson form (h e he)
  have hmembers : Json.recordMembers? fieldNames p.toJson = some p.members := rfl
  simp [ofJson?, hmembers, Members.required?_of_values hid, Members.required?_of_values hname,
    optional?_string htitle, Members.withDefault?_of_values hindex,
    Members.withDefault?_of_values helements, hread, Json.string?, Json.bool?]

/-- A stored page holds the numbers of its styles. -/
theorem within_toJson {P : Binary64 → Prop} (h : ∀ e ∈ p.elements.values, e.children = [])
    (hnumbers : ∀ n ∈ p.numbers, P n) : p.toJson.Within P 5 := by
  have helements : (p.elements.toJson Element.toJson).Within P 4 := by
    refine OrderedMap.within_toJson fun e he => ?_
    rw [Element.toJson_eq (h e he)]
    exact Element.within_members fun n hn => hnumbers n (List.mem_flatMap.2 ⟨e, he, hn⟩)
  have hmembers : ∀ member ∈ p.members, member.2.Within P 4 := by
    unfold members
    simp only [List.forall_mem_append, List.forall_mem_cons]
    exact ⟨⟨⟨.string _ _, .string _ _, nofun⟩, within_of_mem_optionalMember⟩, .bool _ _,
      helements, nofun⟩
  exact .object hmembers

end Page

namespace Site

/-- The numbers in the styles of a site. -/
def numbers (s : Site) : List Binary64 :=
  s.pages.values.flatMap Page.numbers

variable {s : Site}

/-- A site whose elements have no nested children is read from among members that have its
fields. -/
theorem ofMembers?_toMembers (form : Json.ChoiceForm)
    (h : ∀ p ∈ s.pages.values, ∀ e ∈ p.elements.values, e.children = []) {members : Members}
    (hmembers : ∀ name ∈ fieldNames, members.values name = s.toMembers.values name) :
    ofMembers? form members = some s := by
  obtain ⟨hid, hname, hdescription, hpages⟩ : members.values "id" = [.string s.id] ∧
      members.values "name" = [.string s.name] ∧
      members.values "description" = (s.description.map Json.string).toList ∧
      members.values "pages" = [s.pages.toJson Page.toJson] := by
    simpa [fieldNames, toMembers] using hmembers
  have hread : OrderedMap.ofJson? (Page.ofJson? form) (s.pages.toJson Page.toJson) =
      some s.pages :=
    OrderedMap.ofJson?_toJson fun p hp => Page.ofJson?_toJson form (h p hp)
  simp [ofMembers?, Members.required?_of_values hid, Members.required?_of_values hname,
    optional?_string hdescription, Members.withDefault?_of_values hpages, hread, Json.string?]

/-- The members of a site hold the numbers of its styles. -/
theorem within_of_mem_toMembers {P : Binary64 → Prop}
    (h : ∀ p ∈ s.pages.values, ∀ e ∈ p.elements.values, e.children = [])
    (hnumbers : ∀ n ∈ s.numbers, P n) : ∀ member ∈ s.toMembers, member.2.Within P 6 := by
  have hpages : (s.pages.toJson Page.toJson).Within P 6 :=
    OrderedMap.within_toJson fun p hp => Page.within_toJson (h p hp) fun n hn =>
      hnumbers n (List.mem_flatMap.2 ⟨p, hp, hn⟩)
  unfold toMembers
  simp only [List.forall_mem_append, List.forall_mem_cons]
  exact ⟨⟨⟨.string _ _, .string _ _, nofun⟩, within_of_mem_optionalMember⟩, hpages, nofun⟩

end Site

end Sitework
