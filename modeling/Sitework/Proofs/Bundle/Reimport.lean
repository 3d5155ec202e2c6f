import Sitework.Proofs.Bundle.Export
import Sitework.Proofs.StoredNumbers

/-!
# An imported site survives its export

A site that was taken from a manifest is accepted, and the blobs that it refers to came with it. So
it can be exported again with these blobs, and the new manifest gives back the same site. Of the
blobs it only gives back those that the site refers to: blobs that nothing refers to are lost.
-/

namespace Sitework

namespace Manifest

variable {m : Manifest} {text : String}

/-- The numbers of a site that was read from a text are finite. -/
theorem isFinite_of_parse? (h : parse? text = some m) : ∀ n ∈ m.site.numbers, n.IsFinite := by
  obtain ⟨value, hvalue, h⟩ := Option.bind_eq_some_iff.1 h
  simp only [ofJson?, bind, Option.bind_eq_some_iff] at h
  obtain ⟨members, hmembers, warning, -, site, hsite, images, -, h⟩ := h
  obtain rfl := Option.some.inj h
  exact Site.numbers_of_ofMembers? hsite ((Json.holds_of_parse? hvalue).of_object? hmembers)

/-- Every blob that a site refers to comes with it. -/
theorem exists_blob_of_importSite {imported : ImportedSite} (h : m.importSite = .ok imported) :
    ∀ id ∈ imported.site.referencedBlobs, ∃ b, imported.blobs.get? id = some b := by
  intro id hid
  refine OrderedMap.exists_get?_of_mem_keys ?_
  rw [keys_blobs_of_importSite h]
  obtain ⟨-, hmissing, blobs, -, rfl⟩ := importSite_eq_ok_iff.1 h
  exact missing?_eq_none_iff.1 hmissing id hid

/-- A blob that came with a site is read from its own data URL. -/
theorem ofDataUrl_toDataUrl_of_importSite {imported : ImportedSite}
    (h : m.importSite = .ok imported) {id : String} {b : Blob}
    (hb : imported.blobs.get? id = some b) : Blob.ofDataUrl b.toDataUrl = .ok b := by
  rw [get?_blobs_of_importSite h, Option.bind_eq_some_iff] at hb
  obtain ⟨url, -, hurl⟩ := hb
  cases hread : Blob.ofDataUrl url with
  | error reason => rw [hread] at hurl; cases hurl
  | ok found =>
    rw [hread] at hurl
    exact Blob.ofDataUrl_toDataUrl_of_ofDataUrl (Option.some.inj hurl ▸ hread)

/-- An accepted site comes back from its manifest with the blobs that it shows. -/
theorem importText_text_shownImages {site : Site} {blobOf : String → Blob}
    (hsite : Validation.checkSite site = .ok ())
    (hnumbers : ∀ n ∈ site.numbers, Json.ReadsBack n)
    (hblobs : ∀ id ∈ site.referencedBlobs,
      Blob.ofDataUrl (blobOf id).toDataUrl = .ok (blobOf id)) :
    importText (new site ((Exporter.shownImages blobOf site).map Blob.toDataUrl)).text =
      .ok ⟨site, (Exporter.shownImages blobOf site).sorted⟩ := by
  have hparse := parse?_text (m := new site ((Exporter.shownImages blobOf site).map Blob.toDataUrl))
    (OrderedMap.sorted_sorted _) (Validation.children_eq_nil_of_checkSite hsite) hnumbers
  refine importText_eq_ok_iff.2 ⟨_, hparse, importSite_of_images hsite ?_ ?_ ?_⟩
  · exact OrderedMap.sorted_map _ _
  · refine List.forall_mem_map.2 fun entry hentry => ?_
    rw [OrderedMap.mem_entries_sorted, Exporter.entries_shownImages] at hentry
    obtain ⟨id, hid, rfl⟩ := List.mem_map.1 hentry
    exact hblobs id ((Site.mem_shownBlobs hsite).1 hid)
  · intro id hid
    by_contra hnone
    rw [← OrderedMap.get?_eq_none_iff, OrderedMap.get?_sorted, Exporter.get?_shownImages,
      if_pos ((Site.mem_shownBlobs hsite).2 hid)] at hnone
    exact Option.some_ne_none _ hnone

end Manifest

namespace Exporter

/-- A site that was taken from a manifest is exported again if the blobs that came with it, the
favicon and a readable request for webfonts are there, and the manifest of the export gives it
back, together with those of its blobs that it refers to. Finite numbers of the site are assumed
to be read from their own text. -/
theorem importText_run {x : Exporter} {text : String} {imported : ImportedSite}
    {favicon : List UInt8} (himport : Manifest.importText text = .ok imported)
    (hnumbers : ∀ n ∈ imported.site.numbers, n.IsFinite → Json.ReadsBack n)
    (hstore : ∀ id, x.store.blobs.get? id = imported.blobs.get? id)
    (hfavicon : Assets.fetch x.assets x.config.faviconUrl = .ok favicon)
    (hwebfont : ∀ url ∈ x.config.webfontUrl, ∃ parsed, Url.parse url = .ok parsed) :
    ∃ exported manifestText again, x.run imported.site = .ok exported ∧
      exported.archive.get? manifestPath = some (Utf8.encode manifestText.toList) ∧
      Manifest.importText manifestText = .ok again ∧ again.site = imported.site ∧
      (∀ id ∈ imported.site.referencedBlobs, ∃ b,
        imported.blobs.get? id = some b ∧ again.blobs.get? id = some b) ∧
      ∀ id ∉ imported.site.referencedBlobs, again.blobs.get? id = none := by
  obtain ⟨m, hparse, himport⟩ := Manifest.importText_eq_ok_iff.1 himport
  have hblobs := Manifest.exists_blob_of_importSite himport
  let blobOf (id : String) : Blob := (imported.blobs.get? id).getD default
  have hblobOf : ∀ id ∈ imported.site.referencedBlobs,
      imported.blobs.get? id = some (blobOf id) := by
    intro id hid
    obtain ⟨b, hb⟩ := hblobs id hid
    simp only [blobOf, hb, Option.getD_some]
  have hdataUrls : ∀ id ∈ imported.site.referencedBlobs,
      Blob.ofDataUrl (blobOf id).toDataUrl = .ok (blobOf id) := fun id hid =>
    Manifest.ofDataUrl_toDataUrl_of_importSite himport (hblobOf id hid)
  obtain ⟨hsite, hsame⟩ : Validation.checkSite m.site = .ok () ∧ imported.site = m.site := by
    obtain ⟨hsite, -, blobs, -, rfl⟩ := Manifest.importSite_eq_ok_iff.1 himport
    exact ⟨hsite, rfl⟩
  rw [← hsame] at hsite
  have hreadsBack : ∀ n ∈ imported.site.numbers, Json.ReadsBack n := fun n hn =>
    hnumbers n hn (Manifest.isFinite_of_parse? hparse n (hsame ▸ hn))
  obtain ⟨exported, hrun, hmanifest, harchive⟩ :=
    exists_run hsite hfavicon hwebfont fun id hid => (hstore id).trans (hblobOf id hid)
  have hagain := Manifest.importText_text_shownImages hsite hreadsBack hdataUrls
  rw [← hmanifest] at hagain
  refine ⟨exported, exported.manifest.text, ⟨_, (shownImages blobOf imported.site).sorted⟩, hrun,
    harchive, hagain, rfl, ?_, ?_⟩
  · intro id hid
    refine ⟨blobOf id, hblobOf id hid, ?_⟩
    rw [OrderedMap.get?_sorted, get?_shownImages, if_pos ((Site.mem_shownBlobs hsite).2 hid)]
  · intro id hid
    rw [OrderedMap.get?_sorted, get?_shownImages, if_neg (mt (Site.mem_shownBlobs hsite).1 hid)]

/-- A picture that is eight pixels wide on the only page of a site. -/
def gallery : Site :=
  (Site.new "gallery" "Gallery").insert <| (Page.new "home" "Home").insert
    { Element.new "photo" (.image (.blob "team") (some "Our team")) with
      style := { width := some (.px (.ofInt 8)) } }

/-- The blob of the picture and one that nothing refers to. -/
def galleryBlobs : OrderedMap Blob :=
  .ofList [("team", ⟨"image/png", [0x89, 0x50]⟩), ("unused", ⟨"text/plain", [7]⟩)]

def galleryManifest : Manifest :=
  .new gallery (galleryBlobs.map Blob.toDataUrl)

def galleryExporter : Exporter :=
  .new .default ⟨galleryBlobs, .empty⟩ (.ofList [(ExportConfig.default.faviconUrl, [0, 0, 1, 0])])

private theorem readsBack_eight : Json.ReadsBack (.ofInt 8) := by
  have hliteral : Json.Numeral.literal? (Json.numberFormat.write (.ofInt 8)).toList =
      some (⟨false, ['8'], ['0'], none⟩, []) := by decide +kernel
  have hmagnitude : Json.Numeral.Literal.magnitude? ⟨false, ['8'], ['0'], none⟩ =
      some ⟨2 ^ 52, 1025⟩ := by decide +kernel
  have hvalue : Binary64.ofMagnitude false ⟨2 ^ 52, 1025⟩ = .ofInt 8 := by decide +kernel
  refine .of_literal hliteral ?_
  rw [Json.Numeral.Literal.value?, hmagnitude]
  exact congrArg (some ∘ Json.number) hvalue

private theorem readsBack_gallery : ∀ n ∈ gallery.numbers, Json.ReadsBack n := by
  have hnumbers : gallery.numbers = [.ofInt 8] := rfl
  rw [hnumbers]
  exact List.forall_mem_singleton.2 readsBack_eight

private theorem importText_galleryManifest :
    Manifest.importText galleryManifest.text = .ok ⟨gallery, galleryBlobs⟩ := by
  have hsite : Validation.checkSite gallery = .ok () := rfl
  have hsorted : galleryBlobs.sorted = galleryBlobs :=
    OrderedMap.ext (List.mergeSort_of_pairwise (by decide))
  have himages : galleryManifest.images = galleryBlobs.map Blob.toDataUrl :=
    (OrderedMap.sorted_map _ _).trans (congrArg _ hsorted)
  have hdataUrls : ∀ b ∈ galleryBlobs.values, Blob.ofDataUrl b.toDataUrl = .ok b := by
    have hmimes : ∀ b ∈ galleryBlobs.values, ',' ∉ b.mime.toList := by decide
    exact fun b hb => Blob.ofDataUrl_toDataUrl (hmimes b hb)
  have hparse : Manifest.parse? galleryManifest.text = some galleryManifest :=
    Manifest.parse?_text (OrderedMap.sorted_sorted _)
      (Validation.children_eq_nil_of_checkSite hsite) readsBack_gallery
  exact Manifest.importText_eq_ok_iff.2
    ⟨_, hparse, Manifest.importSite_of_images hsite himages hdataUrls (by decide)⟩

/-- The picture of the gallery survives, and the blob that nothing refers to is lost. -/
theorem importText_run_gallery :
    Manifest.importText galleryManifest.text = .ok ⟨gallery, galleryBlobs⟩ ∧
      ∃ exported manifestText again, galleryExporter.run gallery = .ok exported ∧
        exported.archive.get? manifestPath = some (Utf8.encode manifestText.toList) ∧
        Manifest.importText manifestText = .ok again ∧ again.site = gallery ∧
        again.blobs.get? "team" = some ⟨"image/png", [0x89, 0x50]⟩ ∧
        again.blobs.get? "unused" = none := by
  refine ⟨importText_galleryManifest, ?_⟩
  have hfavicon : Assets.fetch galleryExporter.assets galleryExporter.config.faviconUrl =
      .ok [0, 0, 1, 0] := rfl
  obtain ⟨exported, manifestText, again, hrun, harchive, himport, hsite, hkept, hlost⟩ :=
    importText_run (x := galleryExporter) importText_galleryManifest
      (fun n hn _ => readsBack_gallery n hn) (fun _ => rfl) hfavicon nofun
  obtain ⟨b, hteam, hagain⟩ := hkept "team" (by decide)
  have hb : b = ⟨"image/png", [0x89, 0x50]⟩ := Option.some.inj (hteam.symm.trans rfl)
  exact ⟨exported, manifestText, again, hrun, harchive, himport, hsite, hb ▸ hagain,
    hlost "unused" (by decide)⟩

end Exporter

end Sitework
