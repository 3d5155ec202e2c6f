import Sitework.Proofs.Bundle.Export

/-!
# Images of an exported site

An export needs the blobs that its site refers to, and nothing else may be missing of them: each is
written once, numbered in the order in which pages come to show it, and wherever an image shows it,
the source of the image is the path of that file. Images at a location keep it. The manifest names
the same blobs with their data URLs.
-/

namespace Sitework

/-- Where an image is found in a bundle, given the paths of blobs. -/
def ImageSource.location (pathOf : String → String) : ImageSource → String
  | .url location => location
  | .blob id => pathOf id

/-- The source of the node of an image is the path of its blob, or its own location. -/
theorem Page.attribute?_src_placed {p : Page} (hnodup : (p.elements.values.map (·.id)).Nodup)
    (pathOf : String → String) {e : Element} (he : e ∈ p.elements.values) {source : ImageSource}
    {alt : Option String} (hkind : e.kind = .image source alt) {n : MarkupNode}
    (hn : n ∈ (p.placed pathOf).nodes) (hname : n.elementId? = some e.id) :
    n.attribute? "src" = some (source.location pathOf) := by
  rw [placed, MarkupTree.nodes_mapNodes, List.mem_map] at hn
  obtain ⟨m, hm, rfl⟩ := hn
  rw [m.placed_eq] at hname
  obtain rfl := node_eq_nodeOf hnodup he hm hname
  have hblob := MarkupNode.blobId?_nodeOf .empty .monitor e
  rw [Site.blobOf?, hkind] at hblob
  cases source with
  | blob id => exact MarkupNode.attribute?_src_placed pathOf hblob
  | url location =>
    rw [MarkupNode.placed_of_none pathOf hblob]
    change (OrderedMap.ofList (Compilation.kindAttributes e.kind)).get? "src" = some location
    rw [hkind]
    cases alt <;> rfl

/-- Every image of a page has a node. -/
theorem Page.exists_node_placed {p : Page} (pathOf : String → String) {e : Element}
    (he : e ∈ p.elements.values) : ∃ n ∈ (p.placed pathOf).nodes, n.elementId? = some e.id := by
  obtain ⟨n, hn, hname⟩ := exists_node he
  refine ⟨n.placed pathOf, ?_, ?_⟩
  · rw [placed, MarkupTree.nodes_mapNodes]
    exact List.mem_map_of_mem hn
  · rw [n.placed_eq]
    exact hname

namespace Exporter

variable {x : Exporter} {site : Site}

/-- A path in the directory of the images. -/
def isImagePath (path : String) : Bool :=
  "src/images/".toList.isPrefixOf path.toList

theorem isImagePath_imagePath (number : Nat) (extension : String) :
    isImagePath (Inventory.imagePath number extension) = true := by
  rw [isImagePath, List.isPrefixOf_iff_prefix]
  refine ⟨("image_" ++ toString number ++ "." ++ extension).toList, ?_⟩
  rw [← String.toList_append, ← String.append_assoc, ← String.append_assoc, ← String.append_assoc]
  rfl

/-- What is less than two directories down is no image. -/
theorem isImagePath_of_pathDepth_lt {path : String} (h : pathDepth path < 2) :
    isImagePath path = false := by
  rw [Bool.eq_false_iff, Ne, isImagePath, List.isPrefixOf_iff_prefix]
  intro hstart
  have hcount := hstart.sublist.count_le '/'
  have htwo : List.count '/' "src/images/".toList = 2 := by decide
  rw [htwo] at hcount
  exact absurd h (Nat.not_lt.2 hcount)

/-- The images among the files of a site are those of the blobs that it shows. -/
theorem filter_files (hsite : Validation.checkSite site = .ok ()) (favicon : List UInt8)
    (blobOf : String → Blob) (request : Option String) :
    (x.files site favicon blobOf request).filter (isImagePath ·.1) =
      imageFiles blobOf site.shownBlobs := by
  have hbase : (x.baseFiles site favicon).filter (isImagePath ·.1) = [] := by
    refine List.filter_eq_nil_iff.2 fun file hfile => Bool.not_eq_true _ ▸ ?_
    rw [← entries_ofList_baseFiles hsite] at hfile
    have hdepth := pathDepth_keys_baseFiles hsite file.1 (List.mem_map_of_mem hfile)
    exact isImagePath_of_pathDepth_lt (hdepth.trans_lt Nat.one_lt_two)
  have himages : (imageFiles blobOf site.shownBlobs).filter (isImagePath ·.1) =
      imageFiles blobOf site.shownBlobs := by
    refine List.filter_eq_self.2 fun file hfile => ?_
    obtain ⟨numbered, -, rfl⟩ := List.mem_map.1 hfile
    exact isImagePath_imagePath _ _
  have hdocuments : ((placedPages blobOf site).map (x.documentFile site request)).filter
      (isImagePath ·.1) = [] := by
    refine List.filter_eq_nil_iff.2 fun file hfile => Bool.not_eq_true _ ▸ ?_
    rw [placedPages, List.map_map] at hfile
    obtain ⟨p, hp, rfl⟩ := List.mem_map.1 hfile
    exact isImagePath_of_pathDepth_lt ((documentPath_spec hp).1.trans_lt Nat.zero_lt_two)
  have hmanifest : isImagePath manifestPath = false := isImagePath_of_pathDepth_lt (by decide)
  rw [files, List.filter_append, List.filter_append, List.filter_append, hbase, himages,
    hdocuments, List.filter_singleton, hmanifest]
  simp

/-- An exported site has the blobs of its images: each is written once and numbered in the order of
the pages and their markup, with its own bytes, the images that show it lead to it, and the manifest
holds its data URL. -/
structure HasImages (x : Exporter) (site : Site) (blobOf : String → Blob)
    (exported : ExportedSite) : Prop where
  stored : ∀ id ∈ site.referencedBlobs, x.store.blobs.get? id = some (blobOf id)
  files : exported.archive.entries.filter (isImagePath ·.1) =
    (site.shownBlobs.zipIdx 1).map fun (id, number) =>
      (Inventory.imagePath number (Blob.extension (blobOf id).mime), (blobOf id).data)
  documents : ∃ request, ∀ p ∈ site.pages.values, exported.archive.get? (documentPath site p) =
    some (Utf8.encode
      (x.document site request p (p.placed (pathOf blobOf site.shownBlobs))).toList)
  sources : ∀ p ∈ site.pages.values, ∀ e ∈ p.elements.values, ∀ source alt,
    e.kind = .image source alt →
      (∃ n ∈ (p.placed (pathOf blobOf site.shownBlobs)).nodes, n.elementId? = some e.id) ∧
      ∀ n ∈ (p.placed (pathOf blobOf site.shownBlobs)).nodes, n.elementId? = some e.id →
        n.attribute? "src" = some (source.location (pathOf blobOf site.shownBlobs))
  manifest : ∀ id, exported.manifest.images.get? id =
    if id ∈ site.referencedBlobs then some (blobOf id).toDataUrl else none

/-- What an export of an accepted site has written has the blobs of its images. -/
theorem exists_hasImages {exported : ExportedSite} (h : x.run site = .ok exported) :
    ∃ blobOf, HasImages x site blobOf exported := by
  obtain ⟨hsite, favicon, blobOf, request, -, hstore, -, hmanifest, hentries⟩ :=
    exists_of_run_eq_ok h
  refine ⟨blobOf, ?stored, ?files, ⟨request, ?documents⟩, ?sources, ?manifest⟩
  case stored =>
    exact fun id hid => hstore id ((Site.mem_shownBlobs hsite).2 hid)
  case files =>
    rw [hentries, filter_files hsite]
    rfl
  case documents => exact fun p hp => get?_documentPath hentries hp
  case sources =>
    intro p hp e he source alt hkind
    obtain ⟨entry, hentry, rfl⟩ := List.mem_map.1 hp
    have hnodup :=
      Validation.nodup_ids_of_checkPage (Validation.checkPage_of_checkSite hsite entry hentry)
    exact ⟨Page.exists_node_placed _ he, fun n hn hname =>
      Page.attribute?_src_placed hnodup _ he hkind hn hname⟩
  case manifest =>
    intro id
    rw [hmanifest, manifestOf, Manifest.new, OrderedMap.get?_sorted, OrderedMap.get?_map,
      get?_shownImages]
    by_cases hid : id ∈ site.referencedBlobs
    · rw [if_pos hid, if_pos ((Site.mem_shownBlobs hsite).2 hid), Option.map_some]
    · rw [if_neg hid, if_neg (mt (Site.mem_shownBlobs hsite).1 hid), Option.map_none]

/-- An accepted site is exported exactly if every blob that it refers to is there, granted the
favicon and a readable request for webfonts. Otherwise the first one that is missing, page by page
and in the order of the markup, is reported. An exported site has the blobs of its images. -/
theorem run_images {favicon : List UInt8} (hsite : Validation.checkSite site = .ok ())
    (hfavicon : Assets.fetch x.assets x.config.faviconUrl = .ok favicon)
    (hwebfont : ∀ url ∈ x.config.webfontUrl, ∃ parsed, Url.parse url = .ok parsed) :
    ((∃ exported, x.run site = .ok exported) ↔
      ∀ id ∈ site.referencedBlobs, ∃ blob, x.store.blobs.get? id = some blob) ∧
    ((∃ id ∈ site.referencedBlobs, x.store.blobs.get? id = none) →
      ∃ id, (site.pages.values.flatMap Page.shownBlobs).find?
          (fun id => (x.store.blobs.get? id).isNone) = some id ∧
        x.run site = .error (.blob id (.blobNotFound id))) ∧
    ∀ exported, x.run site = .ok exported → ∃ blobOf, HasImages x site blobOf exported := by
  refine ⟨⟨?_, ?_⟩, ?_, fun exported h => exists_hasImages h⟩
  · rintro ⟨exported, h⟩ id hid
    obtain ⟨blobOf, himages⟩ := exists_hasImages h
    exact ⟨blobOf id, himages.stored id hid⟩
  · intro hstore
    have hblobOf : ∀ id ∈ site.referencedBlobs,
        x.store.blobs.get? id = some ((x.store.blobs.get? id).getD default) := by
      intro id hid
      obtain ⟨blob, hblob⟩ := hstore id hid
      rw [hblob, Option.getD_some]
    obtain ⟨exported, hrun, -⟩ := exists_run hsite hfavicon hwebfont hblobOf
    exact ⟨exported, hrun⟩
  · rintro ⟨id, hid, hnone⟩
    have hshown : id ∈ site.pages.values.flatMap Page.shownBlobs :=
      Names.mem_distinct.1 ((Site.mem_shownBlobs hsite).2 hid)
    cases hfind : (site.pages.values.flatMap Page.shownBlobs).find? x.lacks with
    | none =>
      refine absurd ?_ (List.find?_eq_none.1 hfind id hshown)
      rw [lacks, hnone, Option.isNone_none]
    | some first => exact ⟨first, hfind, run_eq_blob_error hsite hfavicon hfind⟩

/-- Two pages with three pictures, of which one is on both pages and one at a location. -/
def atlas : Site :=
  ((Site.new "atlas" "Atlas").insert <| (Page.new "home" "Home").insertAll
    [Element.new "map" (.image (.blob "map") none),
      Element.new "cover" (.image (.url "cover.png") none)]).insert <|
    (Page.new "legend" "Legend").insertAll
      [Element.new "key" (.image (.blob "key") (some "Key")),
        Element.new "map" (.image (.blob "map") none)]

def atlasBlobs : OrderedMap Blob :=
  .ofList [("key", ⟨"image/svg+xml", [0x3c]⟩), ("map", ⟨"image/png", [0x89, 0x50]⟩)]

def atlasExporter : Exporter :=
  .new .default ⟨atlasBlobs, .empty⟩ (.ofList [(ExportConfig.default.faviconUrl, [0, 0, 1, 0])])

theorem run_images_atlas : ∃ exported blobOf, atlasExporter.run atlas = .ok exported ∧
    HasImages atlasExporter atlas blobOf exported := by
  have hsite : Validation.checkSite atlas = .ok () := rfl
  obtain ⟨hiff, -, himages⟩ := run_images (x := atlasExporter) hsite rfl nofun
  have hstore : ∀ id ∈ atlas.referencedBlobs, ∃ blob,
      atlasExporter.store.blobs.get? id = some blob := by
    rw [show atlas.referencedBlobs = ["map", "key"] from rfl, List.forall_mem_cons,
      List.forall_mem_singleton]
    exact ⟨⟨_, rfl⟩, ⟨_, rfl⟩⟩
  obtain ⟨exported, hrun⟩ := hiff.2 hstore
  obtain ⟨blobOf, h⟩ := himages exported hrun
  exact ⟨exported, blobOf, hrun, h⟩

end Exporter

end Sitework
