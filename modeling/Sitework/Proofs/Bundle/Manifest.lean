import Mathlib.Data.List.Forall2
import Sitework.Bundle.Manifest
import Sitework.Proofs.Blob
import Sitework.Proofs.Json.Reader
import Sitework.Proofs.Names
import Sitework.Proofs.Stored
import Sitework.Proofs.Validation

/-!
# Manifests read back

A manifest of an accepted site is read from its own text, as far as the numbers of the site are.
A manifest is taken back exactly if its site is accepted, its images can be decoded and none that
the site refers to is missing; the site then comes with the decoded images.
-/

namespace Sitework

/-- A map in alphabetical order is in that order. -/
@[simp] theorem OrderedMap.sorted_sorted {α : Type} (m : OrderedMap α) :
    m.sorted.sorted = m.sorted := by
  refine OrderedMap.ext ?_
  refine List.mergeSort_of_pairwise (List.pairwise_mergeSort ?_ ?_ _)
  · intro a b c hab hbc
    simp only [decide_eq_true_eq] at hab hbc ⊢
    exact String.le_trans hab hbc
  · intro a b
    simp only [Bool.or_eq_true, decide_eq_true_eq]
    exact String.le_total a.1 b.1

/-- Other values do not change the order of a map. -/
theorem OrderedMap.sorted_map {α β : Type} (f : α → β) (m : OrderedMap α) :
    (m.map f).sorted = m.sorted.map f := by
  have hentries := List.map_mergeSort (f := fun entry : String × α => (entry.1, f entry.2))
    (r := fun a b => decide (a.1 ≤ b.1)) (s := fun a b => decide (a.1 ≤ b.1)) (l := m.entries)
    fun _ _ _ _ => rfl
  exact OrderedMap.ext hentries.symm

namespace Manifest

variable {m : Manifest}

/-- The members of a manifest: those of the site stand between the warning and the images. -/
def members (m : Manifest) : Json.Members :=
  (warningKey, .string m.warning) :: m.site.toMembers ++ [("images", m.images.toJson .string)]

/-- A manifest is read from its own text. -/
theorem parse?_text (hsorted : m.images.sorted = m.images)
    (hflat : ∀ p ∈ m.site.pages.values, ∀ e ∈ p.elements.values, e.children = [])
    (hnumbers : ∀ n ∈ m.site.numbers, Json.ReadsBack n) : parse? m.text = some m := by
  have himages : (m.images.toJson .string).Within Json.ReadsBack 6 :=
    (OrderedMap.within_toJson fun url _ => .string 0 url).mono (by decide)
  have hwithin : m.toJson.Within Json.ReadsBack Json.maxDepth := by
    refine Json.Within.mono (.object ?_) (show 7 ≤ Json.maxDepth by decide)
    simp only [List.forall_mem_append, List.forall_mem_cons]
    exact ⟨⟨.string _ _, Site.within_of_mem_toMembers hflat hnumbers⟩, himages, nofun⟩
  have hsite : Site.ofMembers? .lenient m.members = some m.site := by
    refine Site.ofMembers?_toMembers .lenient hflat fun name hname => ?_
    have hother : ∀ field ∈ Site.fieldNames, warningKey ≠ field ∧ "images" ≠ field := by decide
    obtain ⟨hwarning, himages⟩ := hother name hname
    simp [members, hwarning, himages]
  have hwarning : m.members.values warningKey = [.string m.warning] := by
    simp [members, Site.toMembers, warningKey]
  have hvalues : m.members.values "images" = [m.images.toJson .string] := by
    simp [members, Site.toMembers, warningKey]
  have hread : OrderedMap.ofJson? Json.string? (m.images.toJson .string) = some m.images :=
    OrderedMap.ofJson?_toJson fun url _ => rfl
  have hjson : ofJson? m.toJson = some m := by
    have hmembers : m.toJson.object? = some m.members := rfl
    simp [ofJson?, hmembers, Json.Members.withDefault?_of_values hwarning, hsite,
      Json.Members.withDefault?_of_values hvalues, hread, Json.string?, hsorted]
  rw [parse?, text, Json.parse?_pretty hwithin, Option.bind_some, hjson]

/-- An image is decoded exactly if its data URL is, and keeps its name. -/
theorem blob_eq_ok_iff {entry : String × String} {decoded : String × Blob} :
    blob entry = .ok decoded ↔ entry.1 = decoded.1 ∧ Blob.ofDataUrl entry.2 = .ok decoded.2 := by
  obtain ⟨id, b⟩ := decoded
  unfold blob
  cases Blob.ofDataUrl entry.2 with
  | error reason => simp
  | ok found => simp

/-- Images are decoded one by one. -/
theorem mapM_blob_eq_ok_iff {entries : List (String × String)} {blobs : List (String × Blob)} :
    entries.mapM blob = .ok blobs ↔
      List.Forall₂ (fun entry decoded => blob entry = .ok decoded) entries blobs := by
  induction entries generalizing blobs with
  | nil => simp [pure, Except.pure, eq_comm]
  | cons entry entries ih =>
    rw [List.mapM_cons, List.forall₂_cons_left_iff]
    cases blob entry with
    | error reason => simp [bind, Except.bind]
    | ok first =>
      cases hrest : entries.mapM blob with
      | error reason => simp [bind, Except.bind, ← ih, hrest]
      | ok rest =>
        simp only [bind, Except.bind, pure, Except.pure, Except.ok.injEq, ← ih, hrest]
        constructor
        · rintro rfl
          exact ⟨first, rest, rfl, rfl, rfl⟩
        · rintro ⟨_, _, rfl, rfl, rfl⟩
          rfl

/-- When a manifest is taken back, and as what. -/
theorem importSite_eq_ok_iff {imported : ImportedSite} :
    m.importSite = .ok imported ↔ Validation.checkSite m.site = .ok () ∧ m.missing? = none ∧
      ∃ blobs, m.images.entries.mapM blob = .ok blobs ∧ imported = ⟨m.site, .ofList blobs⟩ := by
  unfold importSite
  cases hsite : Validation.checkSite m.site with
  | error reason => simp
  | ok _ =>
    cases hblobs : m.images.entries.mapM blob with
    | error reason => simp [bind, Except.bind]
    | ok blobs =>
      cases hmissing : m.missing? with
      | some id => simp [bind, Except.bind, throw, throwThe, MonadExceptOf.throw]
      | none => simp [bind, Except.bind, pure, Except.pure, eq_comm]

/-- A text is taken back exactly if it is that of a manifest that is. -/
theorem importText_eq_ok_iff {text : String} {imported : ImportedSite} :
    importText text = .ok imported ↔ ∃ m, parse? text = some m ∧ m.importSite = .ok imported := by
  rw [importText]
  cases parse? text <;> simp

/-- No blob is missing exactly if every blob that the site refers to has a data URL. -/
theorem missing?_eq_none_iff :
    m.missing? = none ↔ ∀ id ∈ m.site.referencedBlobs, id ∈ m.images.keys := by
  rw [missing?, List.find?_eq_none]
  refine forall₂_congr fun id _ => ?_
  rw [Bool.not_eq_true, Bool.not_eq_false', OrderedMap.contains_iff]

/-- Entries that are decoded one by one are found decoded. -/
private theorem findEntry?_of_forall₂ {entries : List (String × String)}
    {blobs : List (String × Blob)}
    (h : List.Forall₂ (fun entry decoded => blob entry = .ok decoded) entries blobs)
    (id : String) : OrderedMap.findEntry? id blobs =
      (OrderedMap.findEntry? id entries).bind fun url => (Blob.ofDataUrl url).toOption := by
  induction h with
  | nil => rfl
  | cons hfirst _ ih =>
    obtain ⟨hname, hdecoded⟩ := blob_eq_ok_iff.1 hfirst
    rw [OrderedMap.findEntry?, OrderedMap.findEntry?, ← hname]
    split
    · rw [Option.bind_some, hdecoded]
      rfl
    · exact ih

/-- They keep their names. -/
private theorem map_fst_of_forall₂ {entries : List (String × String)}
    {blobs : List (String × Blob)}
    (h : List.Forall₂ (fun entry decoded => blob entry = .ok decoded) entries blobs) :
    blobs.map Prod.fst = entries.map Prod.fst := by
  induction h with
  | nil => rfl
  | cons hfirst _ ih => rw [List.map_cons, List.map_cons, ih, (blob_eq_ok_iff.1 hfirst).1]

/-- The blobs that come with a site have the names of the data URLs. -/
theorem keys_blobs_of_importSite {imported : ImportedSite} (h : m.importSite = .ok imported) :
    imported.blobs.keys = m.images.keys := by
  obtain ⟨-, -, blobs, hblobs, rfl⟩ := importSite_eq_ok_iff.1 h
  have hnames := map_fst_of_forall₂ (mapM_blob_eq_ok_iff.1 hblobs)
  rw [OrderedMap.keys, OrderedMap.entries_ofList (hnames ▸ m.images.nodup), hnames]
  rfl

/-- The blobs that come with a site are those of the data URLs. -/
theorem get?_blobs_of_importSite {imported : ImportedSite} (h : m.importSite = .ok imported)
    (id : String) : imported.blobs.get? id =
      (m.images.get? id).bind fun url => (Blob.ofDataUrl url).toOption := by
  obtain ⟨-, -, blobs, hblobs, rfl⟩ := importSite_eq_ok_iff.1 h
  rw [mapM_blob_eq_ok_iff] at hblobs
  have hnodup : (blobs.map Prod.fst).Nodup := map_fst_of_forall₂ hblobs ▸ m.images.nodup
  rw [OrderedMap.get?, OrderedMap.entries_ofList hnodup]
  exact findEntry?_of_forall₂ hblobs id

/-- A manifest with the data URLs of some blobs comes back with these blobs. -/
theorem importSite_of_images {blobs : OrderedMap Blob}
    (hsite : Validation.checkSite m.site = .ok ())
    (himages : m.images = blobs.map Blob.toDataUrl)
    (hblobs : ∀ b ∈ blobs.values, Blob.ofDataUrl b.toDataUrl = .ok b)
    (hreferenced : ∀ id ∈ m.site.referencedBlobs, id ∈ blobs.keys) :
    m.importSite = .ok ⟨m.site, blobs⟩ := by
  refine importSite_eq_ok_iff.2 ⟨hsite, ?_, blobs.entries, ?_, by rw [OrderedMap.ofList_entries]⟩
  · rw [missing?_eq_none_iff, himages, OrderedMap.keys_map]
    exact hreferenced
  · rw [mapM_blob_eq_ok_iff, himages, OrderedMap.map, List.forall₂_map_left_iff,
      List.forall₂_same]
    intro entry hentry
    exact blob_eq_ok_iff.2 ⟨rfl, hblobs entry.2 (List.mem_map_of_mem hentry)⟩

end Manifest

end Sitework
