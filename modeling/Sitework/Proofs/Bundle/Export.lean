import Sitework.Proofs.Bundle.Images
import Sitework.Proofs.Bundle.Manifest

/-!
# What an export writes

Files are added to an archive as long as their paths are new. The paths of an accepted site are:
the files that all pages share and the stylesheets come first, then the images, then the documents
and the manifest, each kind at a depth of its own. So the export of an accepted site can only fail
for lack of the favicon, of a blob that the site shows, or of a readable request for webfonts. If it
succeeds, the whole row of its files is known. Its manifest holds the data URLs of the blobs that
the site shows, which are those that its elements refer to.
-/

namespace Sitework

namespace Site

variable {s : Site}

/-- The blobs that the pages of a site show, in the order in which they are first shown. -/
def shownBlobs (s : Site) : List String :=
  Names.distinct (s.pages.values.flatMap Page.shownBlobs)

/-- The families that the pages of a site apply, in alphabetical order. -/
def usedFamilies (s : Site) : List String :=
  Names.sorted (s.pages.values.flatMap Page.fontFamilies)

/-- An accepted site shows the blobs that it refers to. -/
theorem mem_shownBlobs (h : Validation.checkSite s = .ok ()) {id : String} :
    id ∈ s.shownBlobs ↔ id ∈ s.referencedBlobs := by
  rw [shownBlobs, referencedBlobs, Names.mem_distinct, Names.mem_distinct, List.mem_flatMap,
    List.mem_flatMap]
  refine exists_congr fun p => and_congr_right fun hp => ?_
  obtain ⟨entry, hentry, rfl⟩ := List.mem_map.1 hp
  rw [List.mem_filterMap]
  exact Page.mem_shownBlobs
    (Validation.nodup_ids_of_checkPage (Validation.checkPage_of_checkSite h entry hentry))

end Site

namespace Exporter

variable {x : Exporter} {archive : Archive} {site : Site}

/-- The stylesheets of a page. -/
def stylesheetFiles (x : Exporter) (p : Page) : List (String × List UInt8) :=
  [(baseStylesheetPath p.id, Utf8.encode (x.stylesheet p.stylesheets.base).toList),
    (responsiveStylesheetPath p.id, Utf8.encode (x.stylesheet p.stylesheets.responsive).toList)]

/-- The path of the document of a page. -/
def documentPath (site : Site) (p : Page) : String :=
  (site.fileNames.get? p.id).getD (p.id ++ ".html")

/-- The document of a page, as a file. -/
def documentFile (x : Exporter) (site : Site) (webfontUrl : Option String)
    (page : Page × MarkupTree) : String × List UInt8 :=
  (documentPath site page.1, Utf8.encode (x.document site webfontUrl page.1 page.2).toList)

/-- A row of steps that each add some files adds all of them, if their paths are new. -/
theorem foldlM_eq_ok_insertAll {α : Type} {step : Archive → α → Step Archive}
    {files : α → List (String × List UInt8)}
    (hstep : ∀ archive item, (archive.keys ++ (files item).map Prod.fst).Nodup →
      step archive item = .ok (archive.insertAll (files item)))
    {items : List α} (hnodup : (archive.keys ++ (items.flatMap files).map Prod.fst).Nodup) :
    items.foldlM step archive = .ok (archive.insertAll (items.flatMap files)) := by
  induction items generalizing archive with
  | nil => rfl
  | cons item items ih =>
    rw [List.flatMap_cons, List.map_append, ← List.append_assoc] at hnodup
    have hfirst := (List.nodup_append.1 hnodup).1
    rw [List.foldlM_cons, hstep archive item hfirst, List.flatMap_cons,
      OrderedMap.insertAll_append]
    exact ih (by rwa [OrderedMap.keys_insertAll hfirst])

/-- A file is added under a path that is not taken. -/
theorem addText_eq_ok {path : String} (h : path ∉ archive.keys) (text : String) :
    addText archive path text = .ok (archive.insert path (Utf8.encode text.toList)) :=
  add_eq_ok h _

/-- So are both stylesheets of a page. -/
theorem addStylesheets_eq_ok {p : Page}
    (h : (archive.keys ++ (x.stylesheetFiles p).map Prod.fst).Nodup) :
    x.addStylesheets archive p = .ok (archive.insertAll (x.stylesheetFiles p)) := by
  obtain ⟨hbase, hresponsive⟩ : baseStylesheetPath p.id ∉ archive.keys ∧
      responsiveStylesheetPath p.id ∉ archive.keys := by
    have hdisjoint := List.disjoint_right.1 (List.disjoint_of_nodup_append h)
    exact ⟨hdisjoint (by simp [stylesheetFiles]), hdisjoint (by simp [stylesheetFiles])⟩
  have hnext (bytes : List UInt8) : responsiveStylesheetPath p.id ∉
      OrderedMap.keys (archive.insert (baseStylesheetPath p.id) bytes) := by
    rw [OrderedMap.keys_insert, if_neg hbase, List.mem_append, List.mem_singleton]
    exact not_or.2 ⟨hresponsive, baseStylesheetPath_ne_responsiveStylesheetPath.symm⟩
  simp only [addStylesheets, addText_eq_ok hbase, bind, Except.bind]
  exact addText_eq_ok (hnext _) _

/-- So is the document of a page. -/
theorem addDocument_eq_ok {webfontUrl : Option String} {page : Page × MarkupTree}
    (h : (archive.keys ++ [x.documentFile site webfontUrl page].map Prod.fst).Nodup) :
    x.addDocument site webfontUrl archive page =
      .ok (archive.insertAll [x.documentFile site webfontUrl page]) := by
  have hnew : documentPath site page.1 ∉ archive.keys :=
    List.disjoint_right.1 (List.disjoint_of_nodup_append h) (List.mem_singleton_self _)
  exact addText_eq_ok hnew _

/-- The files that all pages share. -/
def sharedFiles (x : Exporter) (favicon : List UInt8) : List (String × List UInt8) :=
  [(faviconPath, favicon),
    (sharedStylesheetPath, Utf8.encode (x.stylesheet x.config.sharedRules).toList)]

/-- The shared files come first, once the icon is fetched. -/
theorem addShared_eq_ok {favicon : List UInt8}
    (h : Assets.fetch x.assets x.config.faviconUrl = .ok favicon) :
    x.addShared OrderedMap.empty = .ok (OrderedMap.ofList (x.sharedFiles favicon)) := by
  have hfirst : faviconPath ∉ (OrderedMap.empty : Archive).keys := List.not_mem_nil
  have hnext : sharedStylesheetPath ∉
      OrderedMap.keys ((OrderedMap.empty : Archive).insert faviconPath favicon) := by
    rw [OrderedMap.keys_insert, if_neg hfirst]
    change sharedStylesheetPath ∉ [faviconPath]
    decide
  simp only [addShared, h, Except.mapError, add_eq_ok hfirst, bind, Except.bind]
  exact addText_eq_ok hnext _

/-- The request for webfonts can be cut down if it is a URL. -/
theorem exists_webfontRequest
    (h : ∀ url ∈ x.config.webfontUrl, ∃ parsed, Url.parse url = .ok parsed) (used : List String) :
    ∃ request, x.webfontRequest used = .ok request := by
  rw [webfontRequest]
  cases hurl : x.config.webfontUrl with
  | none => exact ⟨none, rfl⟩
  | some url =>
    obtain ⟨parsed, hparsed⟩ := h url hurl
    simp only [Webfont.trim, hparsed, bind, Except.bind]
    cases parsed.query with
    | none => exact ⟨_, rfl⟩
    | some query =>
      simp only
      split <;> exact ⟨_, rfl⟩

/-- The files that are there before the images are those that all pages share and the stylesheets
of the pages. -/
theorem map_fst_baseFiles (favicon : List UInt8) (ps : List Page) :
    (x.sharedFiles favicon ++ ps.flatMap x.stylesheetFiles).map Prod.fst =
      sharedPaths ++ (ps.map (·.id)).flatMap stylesheetPaths := by
  rw [List.map_append, List.map_flatMap, List.flatMap_map]
  rfl

/-- The stylesheets of some pages are added after the shared files. -/
theorem foldlM_addStylesheets_eq_ok (favicon : List UInt8) {ps : List Page}
    (h : (ps.map (·.id)).Nodup) :
    ps.foldlM x.addStylesheets (OrderedMap.ofList (x.sharedFiles favicon)) =
      .ok (OrderedMap.ofList (x.sharedFiles favicon ++ ps.flatMap x.stylesheetFiles)) := by
  have hshared : ((x.sharedFiles favicon).map Prod.fst).Nodup := by
    change sharedPaths.Nodup
    decide
  rw [OrderedMap.ofList, OrderedMap.ofList, OrderedMap.insertAll_append, ← OrderedMap.ofList]
  refine foldlM_eq_ok_insertAll (fun _ _ => addStylesheets_eq_ok) ?_
  rw [OrderedMap.keys_ofList hshared, ← List.map_append, map_fst_baseFiles]
  exact nodup_stylesheetPaths h

/-- The files that are there before the images are one directory down. -/
theorem pathDepth_baseFiles (favicon : List UInt8) {ps : List Page} (h : (ps.map (·.id)).Nodup)
    (hdepth : ∀ id ∈ ps.map (·.id), pathDepth id = 0) :
    ∀ path ∈ (OrderedMap.ofList (x.sharedFiles favicon ++ ps.flatMap x.stylesheetFiles)).keys,
      pathDepth path = 1 := by
  rw [OrderedMap.keys_ofList (by rw [map_fst_baseFiles]; exact nodup_stylesheetPaths h),
    map_fst_baseFiles, List.forall_mem_append]
  refine ⟨pathDepth_sharedPaths, fun path hpath => ?_⟩
  obtain ⟨id, hid, hmem⟩ := List.mem_flatMap.1 hpath
  exact pathDepth_stylesheetPaths (hdepth id hid) path hmem

/-- Documents are at the top, and none takes the place of the manifest. -/
theorem documentPath_spec {p : Page} (hp : p ∈ site.pages.values) :
    pathDepth (documentPath site p) = 0 ∧ documentPath site p ≠ manifestPath := by
  obtain ⟨stem, hfile, hslug⟩ := Site.exists_fileName hp
  rw [documentPath, hfile, Option.getD_some, pathDepth_append, pathDepth_of_isSlug hslug]
  refine ⟨by decide, ?_⟩
  have hmanifest : manifestPath = "site." ++ "json" := rfl
  have hpath : stem ++ ".html" = (stem ++ ".") ++ "html" := by
    rw [String.append_assoc]
    rfl
  rw [hmanifest, hpath]
  exact append_ne_append rfl (by decide)

/-- The documents of different pages have different paths. -/
theorem nodup_documentPaths (h : (site.pages.values.map (·.id)).Nodup) :
    (site.pages.values.map (documentPath site)).Nodup := by
  refine List.Nodup.map_on (fun p hp q hq heq => ?_) h.of_map
  obtain ⟨file, hp', -⟩ := Site.exists_fileName hp
  obtain ⟨other, hq', -⟩ := Site.exists_fileName hq
  rw [documentPath, documentPath, hp', hq', Option.getD_some, Option.getD_some] at heq
  exact List.inj_on_of_nodup_map h hp hq (Site.eq_of_fileNames_eq hp' (heq ▸ hq'))

/-- The blobs that a site shows, under their names. -/
def shownImages (blobOf : String → Blob) (site : Site) : OrderedMap Blob :=
  .ofList (site.shownBlobs.map fun id => (id, blobOf id))

/-- The images that are shown stand in the order in which they are found. -/
theorem entries_shownImages (blobOf : String → Blob) (site : Site) :
    (shownImages blobOf site).entries = site.shownBlobs.map fun id => (id, blobOf id) := by
  refine OrderedMap.entries_ofList ?_
  rw [List.map_map]
  exact (List.map_id _).symm ▸ Names.nodup_distinct _

/-- What is shown is found under its name. -/
theorem get?_shownImages (blobOf : String → Blob) (site : Site) (id : String) :
    (shownImages blobOf site).get? id =
      if id ∈ site.shownBlobs then some (blobOf id) else none := by
  ext b
  rw [OrderedMap.get?_eq_some_iff, entries_shownImages, List.mem_map]
  constructor
  · rintro ⟨other, hother, heq⟩
    obtain ⟨rfl, rfl⟩ := Prod.mk.inj heq
    rw [if_pos hother]
  · intro h
    split at h
    · next hid => exact ⟨id, hid, congrArg (Prod.mk id) (Option.some.inj h)⟩
    · cases h

/-- The documents are added after the images and before the manifest. -/
theorem exists_addDocuments (webfontUrl : Option String) {pages : List (Page × MarkupTree)}
    (hpages : pages.map Prod.fst = site.pages.values)
    (hids : (site.pages.values.map (·.id)).Nodup)
    (hdepth : ∀ path ∈ archive.keys, 1 ≤ pathDepth path) :
    ∃ next, pages.foldlM (x.addDocument site webfontUrl) archive = .ok next ∧
      next.entries = archive.entries ++ pages.map (x.documentFile site webfontUrl) ∧
      manifestPath ∉ next.keys := by
  have hfiles : (pages.flatMap fun page => [x.documentFile site webfontUrl page]) =
      pages.map (x.documentFile site webfontUrl) := List.map_eq_flatMap.symm
  have hpaths : (pages.map (x.documentFile site webfontUrl)).map Prod.fst =
      site.pages.values.map (documentPath site) := by
    rw [← hpages, List.map_map, List.map_map]
    rfl
  have hnodup : (archive.keys ++
      (pages.flatMap fun page => [x.documentFile site webfontUrl page]).map Prod.fst).Nodup := by
    rw [hfiles, hpaths]
    refine archive.nodup.append (nodup_documentPaths hids) (List.disjoint_right.2 ?_)
    refine List.forall_mem_map.2 fun p hp hmem => ?_
    exact absurd (hdepth _ hmem) (by rw [(documentPath_spec hp).1]; decide)
  refine ⟨_, foldlM_eq_ok_insertAll (fun _ _ => addDocument_eq_ok) hnodup, ?_, ?_⟩
  · rw [OrderedMap.entries_insertAll _ (by rwa [List.map_append]), hfiles]
  · rw [OrderedMap.keys_insertAll hnodup, hfiles, hpaths, List.mem_append, not_or]
    refine ⟨fun hmem => absurd (hdepth _ hmem) (by decide), fun hmem => ?_⟩
    obtain ⟨p, hp, heq⟩ := List.mem_map.1 hmem
    exact (documentPath_spec hp).2 heq

/-- The files that are there before the images. -/
def baseFiles (x : Exporter) (site : Site) (favicon : List UInt8) : List (String × List UInt8) :=
  x.sharedFiles favicon ++ site.pages.values.flatMap x.stylesheetFiles

/-- The pages of a site, each with its markup in which the images have their paths. -/
def placedPages (blobOf : String → Blob) (site : Site) : List (Page × MarkupTree) :=
  site.pages.values.map fun p => (p, p.placed (pathOf blobOf site.shownBlobs))

/-- The manifest of a site with the blobs that it shows. -/
def manifestOf (blobOf : String → Blob) (site : Site) : Manifest :=
  Manifest.new site ((shownImages blobOf site).map Blob.toDataUrl)

/-- The files of an export. -/
def files (x : Exporter) (site : Site) (favicon : List UInt8) (blobOf : String → Blob)
    (request : Option String) : List (String × List UInt8) :=
  x.baseFiles site favicon ++ imageFiles blobOf site.shownBlobs ++
    (placedPages blobOf site).map (x.documentFile site request) ++
    [(manifestPath, Utf8.encode (manifestOf blobOf site).text.toList)]

section Run

variable {favicon : List UInt8} {blobOf : String → Blob}
  (hsite : Validation.checkSite site = .ok ())
include hsite

/-- The files beside the images lie in one folder. -/
theorem pathDepth_keys_baseFiles : ∀ path ∈ (OrderedMap.ofList (x.baseFiles site favicon)).keys,
    pathDepth path = 1 :=
  pathDepth_baseFiles favicon (Validation.nodup_ids_of_checkSite hsite)
    (Validation.pathDepth_ids_of_checkSite hsite)

/-- They have distinct paths, so all of them are kept, in order. -/
theorem entries_ofList_baseFiles :
    (OrderedMap.ofList (x.baseFiles site favicon)).entries = x.baseFiles site favicon := by
  refine OrderedMap.entries_ofList ?_
  rw [baseFiles, map_fst_baseFiles]
  exact nodup_stylesheetPaths (Validation.nodup_ids_of_checkSite hsite)

/-- Once every blob that a site shows is there, the markup of its pages is written with their
paths. -/
theorem exists_progress
    (hstore : ∀ id ∈ site.shownBlobs, x.store.blobs.get? id = some (blobOf id)) : ∃ progress,
    x.markups ⟨.ofList (x.baseFiles site favicon), .empty⟩ site.pages.values =
        .ok (progress, placedPages blobOf site) ∧
      Recorded blobOf (.ofList (x.baseFiles site favicon)) site.shownBlobs
        (site.pages.values.flatMap Page.fontFamilies) progress := by
  have hshown : ∀ id ∈ site.pages.values.flatMap Page.shownBlobs,
      x.store.blobs.get? id = some (blobOf id) := fun id hid =>
    hstore id (Names.mem_distinct.2 hid)
  exact (Recorded.empty blobOf _).exists_markups
    (fun path hpath => (pathDepth_keys_baseFiles hsite path hpath).trans_lt Nat.one_lt_two)
    hshown List.prefix_rfl

variable (hfavicon : Assets.fetch x.assets x.config.faviconUrl = .ok favicon)
include hfavicon

/-- Up to the images, an export of an accepted site depends on the favicon only. -/
theorem run_eq_bind : x.run site =
    (x.markups ⟨.ofList (x.baseFiles site favicon), .empty⟩ site.pages.values).bind fun result =>
      (x.webfontRequest result.1.inventory.usedFamilies).bind fun request =>
        (result.2.foldlM (x.addDocument site request) result.1.archive).bind fun archive =>
          (addText archive manifestPath
              (Manifest.new site result.1.inventory.images).text).bind fun archive =>
            .ok ⟨archive, Manifest.new site result.1.inventory.images⟩ := by
  rw [run, hsite]
  simp only [Except.mapError, addShared_eq_ok hfavicon,
    foldlM_addStylesheets_eq_ok favicon (Validation.nodup_ids_of_checkSite hsite), bind,
    Except.bind, baseFiles]
  rfl

/-- The first blob that a site shows and the store lacks ends its export. -/
theorem run_eq_blob_error {id : String}
    (hfind : (site.pages.values.flatMap Page.shownBlobs).find? x.lacks = some id) :
    x.run site = .error (.blob id (.blobNotFound id)) := by
  rw [run_eq_bind hsite hfavicon,
    (Recorded.empty (fun id => (x.store.blobs.get? id).getD default) _).markups_eq_error
      (fun path hpath => (pathDepth_keys_baseFiles hsite path hpath).trans_lt Nat.one_lt_two)
      (fun id hid => ?_) nofun hfind]
  · rfl
  · rw [lacks, Option.isNone_eq_false_iff, Option.isSome_iff_exists] at hid
    obtain ⟨blob, hblob⟩ := hid
    rw [hblob, Option.getD_some]

variable (hstore : ∀ id ∈ site.shownBlobs, x.store.blobs.get? id = some (blobOf id))
include hstore

/-- A request for webfonts that is no URL ends the export. -/
theorem run_eq_webfont_error {reason : ExportError}
    (hrequest : x.webfontRequest site.usedFamilies = .error reason) :
    x.run site = .error reason := by
  obtain ⟨progress, hmarkups, hrecorded⟩ := exists_progress hsite hstore
  rw [run_eq_bind hsite hfavicon, hmarkups]
  have hfamilies : progress.inventory.usedFamilies = site.usedFamilies :=
    congrArg Names.sorted hrecorded.families
  simp only [Except.bind, hfamilies, hrequest]

/-- The export of an accepted site writes its files, in order. -/
theorem exists_run_entries {request : Option String}
    (hrequest : x.webfontRequest site.usedFamilies = .ok request) :
    ∃ archive, x.run site = .ok ⟨archive, manifestOf blobOf site⟩ ∧
      archive.entries = x.files site favicon blobOf request := by
  obtain ⟨progress, hmarkups, hrecorded⟩ := exists_progress hsite hstore
  have hpages : (placedPages blobOf site).map Prod.fst = site.pages.values := by
    rw [placedPages, List.map_map]
    exact List.map_id _
  obtain ⟨archive, hdocuments, hentries, hmanifest⟩ := exists_addDocuments (x := x) request hpages
    (Validation.nodup_ids_of_checkSite hsite)
    (hrecorded.one_le_pathDepth fun path hpath => (pathDepth_keys_baseFiles hsite path hpath).ge)
  have hfamilies : progress.inventory.usedFamilies = site.usedFamilies :=
    congrArg Names.sorted hrecorded.families
  have himages : Manifest.new site progress.inventory.images = manifestOf blobOf site := by
    have hdataUrls : progress.inventory.dataUrls =
        (shownImages blobOf site).map Blob.toDataUrl := by
      refine OrderedMap.ext (hrecorded.dataUrls.trans ?_)
      rw [OrderedMap.entries_map, entries_shownImages, List.map_map]
      rfl
    rw [manifestOf, Manifest.new, Manifest.new, Inventory.images, OrderedMap.sorted_sorted,
      hdataUrls]
  refine ⟨archive.insert manifestPath (Utf8.encode (manifestOf blobOf site).text.toList), ?_, ?_⟩
  · rw [run_eq_bind hsite hfavicon, hmarkups]
    simp only [Except.bind, hfamilies, hrequest, hdocuments, himages, addText_eq_ok hmanifest]
  · rw [OrderedMap.entries_insert_of_not_mem hmanifest, hentries, hrecorded.files,
      entries_ofList_baseFiles hsite]
    rfl

end Run

/-- An export that succeeds is one of an accepted site with everything there, and has written the
files of the site. -/
theorem exists_of_run_eq_ok {exported : ExportedSite} (h : x.run site = .ok exported) :
    Validation.checkSite site = .ok () ∧ ∃ favicon blobOf request,
      Assets.fetch x.assets x.config.faviconUrl = .ok favicon ∧
      (∀ id ∈ site.shownBlobs, x.store.blobs.get? id = some (blobOf id)) ∧
      x.webfontRequest site.usedFamilies = .ok request ∧
      exported.manifest = manifestOf blobOf site ∧
      exported.archive.entries = x.files site favicon blobOf request := by
  have hsite : Validation.checkSite site = .ok () := by
    cases hcheck : Validation.checkSite site with
    | ok _ => rfl
    | error reason => rw [run, hcheck] at h; cases h
  cases hfavicon : Assets.fetch x.assets x.config.faviconUrl with
  | error reason =>
    rw [run, hsite] at h
    simp only [addShared, hfavicon, Except.mapError, bind, Except.bind] at h
    cases h
  | ok favicon =>
    cases hfind : (site.pages.values.flatMap Page.shownBlobs).find? x.lacks with
    | some id =>
      rw [run_eq_blob_error hsite hfavicon hfind] at h
      cases h
    | none =>
      have hstore : ∀ id ∈ site.shownBlobs,
          x.store.blobs.get? id = some ((x.store.blobs.get? id).getD default) := by
        intro id hid
        have hthere := List.find?_eq_none.1 hfind id (Names.mem_distinct.1 hid)
        rw [lacks, Bool.not_eq_true, Option.isNone_eq_false_iff, Option.isSome_iff_exists] at hthere
        obtain ⟨blob, hblob⟩ := hthere
        rw [hblob, Option.getD_some]
      cases hrequest : x.webfontRequest site.usedFamilies with
      | error reason =>
        rw [run_eq_webfont_error hsite hfavicon hstore hrequest] at h
        cases h
      | ok request =>
        obtain ⟨archive, hrun, hentries⟩ := exists_run_entries hsite hfavicon hstore hrequest
        obtain rfl := Except.ok.inj (hrun.symm.trans h)
        exact ⟨hsite, favicon, _, request, rfl, hstore, rfl, rfl, hentries⟩

/-- The document of each page is among the files. -/
theorem get?_documentPath {favicon : List UInt8} {blobOf : String → Blob} {request : Option String}
    (hentries : archive.entries = x.files site favicon blobOf request) {p : Page}
    (hp : p ∈ site.pages.values) : archive.get? (documentPath site p) = some (Utf8.encode
      (x.document site request p (p.placed (pathOf blobOf site.shownBlobs))).toList) := by
  rw [OrderedMap.get?_eq_some_iff, hentries, files]
  refine List.mem_append_left _ (List.mem_append_right _ ?_)
  rw [placedPages, List.map_map]
  exact List.mem_map_of_mem hp

/-- An accepted site is exported if the favicon, the blobs it refers to and a readable request for
webfonts are there. The manifest holds the data URLs of these blobs and is one of the files. -/
theorem exists_run {favicon : List UInt8} {blobOf : String → Blob}
    (hsite : Validation.checkSite site = .ok ())
    (hfavicon : Assets.fetch x.assets x.config.faviconUrl = .ok favicon)
    (hwebfont : ∀ url ∈ x.config.webfontUrl, ∃ parsed, Url.parse url = .ok parsed)
    (hstore : ∀ id ∈ site.referencedBlobs, x.store.blobs.get? id = some (blobOf id)) :
    ∃ exported, x.run site = .ok exported ∧
      exported.manifest = Manifest.new site ((shownImages blobOf site).map Blob.toDataUrl) ∧
      exported.archive.get? manifestPath = some (Utf8.encode exported.manifest.text.toList) := by
  obtain ⟨request, hrequest⟩ := exists_webfontRequest hwebfont site.usedFamilies
  obtain ⟨archive, hrun, hentries⟩ := exists_run_entries hsite hfavicon
    (fun id hid => hstore id ((Site.mem_shownBlobs hsite).1 hid)) hrequest
  refine ⟨_, hrun, rfl, OrderedMap.get?_eq_some_iff.2 ?_⟩
  rw [hentries, files]
  exact List.mem_append_right _ (List.mem_singleton_self _)

end Exporter

end Sitework
