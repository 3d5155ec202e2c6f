import Sitework.Store
import Sitework.Proofs.Bundle.Manifest

/-!
# A manifest is taken back as a whole or not at all

A text is read and checked before anything is put into the store, and putting does not fail. So a
text that is refused, for whatever reason and at whichever image, leaves the store as it was; and of
one that is not, all blobs are put over those of the store, and the one site.
-/

namespace Sitework

/-- A site refers to the blobs of its image elements. -/
theorem Site.mem_referencedBlobs {s : Site} {id : String} : id ∈ s.referencedBlobs ↔
    ∃ p ∈ s.pages.values, ∃ e ∈ p.elements.values, ∃ alt, e.kind = .image (.blob id) alt := by
  have hblob (e : Element) : blobOf? e = some id ↔ ∃ alt, e.kind = .image (.blob id) alt := by
    rw [blobOf?]
    split
    · next alt hkind => simp [hkind]
    · next hother =>
      constructor
      · nofun
      · rintro ⟨alt, hkind⟩
        exact absurd hkind (hother id alt)
  simp only [referencedBlobs, Names.mem_distinct, List.mem_flatMap, List.mem_filterMap, hblob]

namespace Manifest

variable {m : Manifest}

/-- What a manifest has to be to be taken back: its site is accepted, its data URLs are read, and
it holds every image that an element of the site shows. -/
structure IsImportable (m : Manifest) : Prop where
  accepted : Validation.checkSite m.site = .ok ()
  readable : ∀ url ∈ m.images.values, ∃ blob, Blob.ofDataUrl url = .ok blob
  complete : ∀ p ∈ m.site.pages.values, ∀ e ∈ p.elements.values, ∀ id alt,
    e.kind = .image (.blob id) alt → id ∈ m.images.keys

/-- The images of a manifest are decoded if each data URL is read. -/
theorem exists_mapM_blob_iff {entries : List (String × String)} :
    (∃ blobs, entries.mapM blob = .ok blobs) ↔
      ∀ entry ∈ entries, ∃ b, Blob.ofDataUrl entry.2 = .ok b := by
  simp only [mapM_blob_eq_ok_iff]
  induction entries with
  | nil => simp
  | cons entry entries ih =>
    rw [List.forall_mem_cons, ← ih]
    constructor
    · rintro ⟨_, hblobs⟩
      obtain ⟨decoded, blobs, hfirst, hrest, rfl⟩ := List.forall₂_cons_left_iff.1 hblobs
      exact ⟨⟨decoded.2, (blob_eq_ok_iff.1 hfirst).2⟩, blobs, hrest⟩
    · rintro ⟨⟨b, hb⟩, blobs, hrest⟩
      exact ⟨(entry.1, b) :: blobs, .cons (blob_eq_ok_iff.2 ⟨rfl, hb⟩) hrest⟩

/-- A manifest is taken back exactly if it is what it has to be. -/
theorem exists_importSite_iff : (∃ imported, m.importSite = .ok imported) ↔ m.IsImportable := by
  have hreferenced : m.missing? = none ↔ ∀ p ∈ m.site.pages.values, ∀ e ∈ p.elements.values,
      ∀ id alt, e.kind = .image (.blob id) alt → id ∈ m.images.keys := by
    rw [missing?_eq_none_iff]
    simp only [Site.mem_referencedBlobs]
    exact ⟨fun h p hp e he id alt hkind => h id ⟨p, hp, e, he, alt, hkind⟩,
      fun h id ⟨p, hp, e, he, alt, hkind⟩ => h p hp e he id alt hkind⟩
  have hreadable : (∃ blobs, m.images.entries.mapM blob = .ok blobs) ↔
      ∀ url ∈ m.images.values, ∃ b, Blob.ofDataUrl url = .ok b := by
    rw [exists_mapM_blob_iff, OrderedMap.values, List.forall_mem_map]
  simp only [importSite_eq_ok_iff, hreferenced]
  constructor
  · rintro ⟨_, haccepted, hcomplete, blobs, hblobs, rfl⟩
    exact ⟨haccepted, hreadable.1 ⟨blobs, hblobs⟩, hcomplete⟩
  · rintro ⟨haccepted, hurls, hcomplete⟩
    obtain ⟨blobs, hblobs⟩ := hreadable.2 hurls
    exact ⟨_, haccepted, hcomplete, blobs, hblobs, rfl⟩

/-- What is imported holds the site of the manifest. -/
theorem site_of_importSite {imported : ImportedSite} (h : m.importSite = .ok imported) :
    imported.site = m.site := by
  obtain ⟨-, -, blobs, -, rfl⟩ := importSite_eq_ok_iff.1 h
  rfl

end Manifest

namespace Store

/-- The store with some blobs put one after the other. -/
def putBlobs (s : Store) (entries : List (String × Blob)) : Store :=
  { s with blobs := s.blobs.insertAll entries }

/-- After a step that does not fail, the next one runs on the store that it leaves. -/
theorem run_bind_of_ok {α β : Type} {first : ExceptT ImportError (StateM Store) α}
    {next : α → ExceptT ImportError (StateM Store) β} {s after : Store} {a : α}
    (h : first.run.run s = (.ok a, after)) :
    (first >>= next).run.run s = (next a).run.run after := by
  rw [ExceptT.run_bind, StateT.run_bind, h]
  rfl

/-- Putting blobs does not fail, and changes these blobs only. -/
theorem run_putBlobs (entries : List (String × Blob)) (s : Store) :
    (entries.forM fun (id, blob) => modify (·.putBlob id blob) :
      ExceptT ImportError (StateM Store) PUnit).run.run s = (.ok ⟨⟩, s.putBlobs entries) := by
  induction entries generalizing s with
  | nil => rfl
  | cons entry entries ih => exact ih (s.putBlob entry.1 entry.2)

/-- Taking a text back either reads all of it and puts it, or puts nothing. -/
theorem run_importInto (text : String) (s : Store) : (importInto text).run.run s =
    match Manifest.importText text with
    | .ok imported =>
      (.ok imported.site, (s.putBlobs imported.blobs.entries).putSite imported.site)
    | .error reason => (.error reason, s) := by
  rw [importInto]
  cases Manifest.importText text with
  | error reason => rfl
  | ok imported =>
    exact run_bind_of_ok (run_putBlobs imported.blobs.entries s)

/-- A blob that came with a site is found before what the store had under that name. -/
theorem get?_putBlobs {m : Manifest} {imported : ImportedSite} (s : Store)
    (h : m.importSite = .ok imported) (id : String) :
    (s.putBlobs imported.blobs.entries).blobs.get? id =
      ((m.images.get? id).bind fun url => (Blob.ofDataUrl url).toOption).or (s.blobs.get? id) := by
  rw [putBlobs, OrderedMap.get?_insertAll _ imported.blobs.nodup,
    ← Manifest.get?_blobs_of_importSite h]
  rfl

/-- A text is taken back exactly if it is a manifest whose site is accepted, whose data URLs are
read, and which holds every image that its site shows. Otherwise the store stays as it was; and if
it is taken back, its decoded images lie over the blobs of the store, its site has taken its place
among the sites, and everything else stays. -/
theorem importInto_all_or_nothing (text : String) (s : Store) :
    let outcome := (importInto text).run.run s
    ((∃ site, outcome.1 = .ok site) ↔
        ∃ m, Manifest.parse? text = some m ∧ m.IsImportable) ∧
      (∀ reason, outcome.1 = .error reason → outcome.2 = s) ∧
      ∀ site, outcome.1 = .ok site → ∃ m, Manifest.parse? text = some m ∧ site = m.site ∧
        (∀ id, outcome.2.blobs.get? id =
          ((m.images.get? id).bind fun url => (Blob.ofDataUrl url).toOption).or
            (s.blobs.get? id)) ∧
        ∀ id, outcome.2.sites.get? id =
          if id = m.site.id then some m.site else s.sites.get? id := by
  rw [run_importInto]
  cases himport : Manifest.importText text with
  | error reason =>
    refine ⟨⟨nofun, ?_⟩, fun _ _ => rfl, nofun⟩
    rintro ⟨m, hparse, himportable⟩
    obtain ⟨imported, hsite⟩ := Manifest.exists_importSite_iff.2 himportable
    rw [Manifest.importText_eq_ok_iff.2 ⟨m, hparse, hsite⟩] at himport
    cases himport
  | ok imported =>
    obtain ⟨m, hparse, hsite⟩ := Manifest.importText_eq_ok_iff.1 himport
    have hsame : imported.site = m.site := Manifest.site_of_importSite hsite
    have himportable : m.IsImportable := Manifest.exists_importSite_iff.1 ⟨imported, hsite⟩
    refine ⟨⟨fun _ => ⟨m, hparse, himportable⟩, fun _ => ⟨imported.site, rfl⟩⟩, nofun, ?_⟩
    rintro site ⟨⟩
    refine ⟨m, hparse, hsame, get?_putBlobs s hsite, fun id => ?_⟩
    change ((s.putBlobs _).sites.insert imported.site.id imported.site).get? id = _
    rw [OrderedMap.get?_insert, hsame]
    rfl

end Store

end Sitework
