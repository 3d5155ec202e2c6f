import Sitework.Proofs.Bundle.Export
import Sitework.Proofs.Bundle.Links

/-!
# Layout of an exported site

An exported site has its files in a fixed order, each under a path of its own: what all pages share,
the stylesheets of each page, the images, the documents and the manifest. Each document links the
stylesheets that its page has among them. The only other stylesheet that it links is the request for
webfonts, which is no file.
-/

namespace Sitework

/-- A character of the path of a stylesheet. -/
def isPathChar (c : Char) : Bool :=
  Validation.isPageIdChar c || c == '/' || c == '.'

section Paths

variable {c : Char} {path : String}

/-- Characters of paths are not escaped. -/
theorem escapeAttributeChar_of_isPathChar (h : isPathChar c = true) :
    Html.escapeAttributeChar c = [c] := by
  have hne (d : Char) (hd : isPathChar d = false) : c ≠ d := by
    rintro rfl
    rw [hd] at h
    cases h
  rw [Html.escapeAttributeChar, if_neg (hne _ (by decide)), Html.escapeTextChar,
    if_neg (hne _ (by decide)), if_neg (hne _ (by decide)), if_neg (hne _ (by decide))]

/-- None of them is a blank. -/
theorem isBlank_of_isPathChar (h : isPathChar c = true) : Text.isBlank c = false := by
  simp only [isPathChar, Validation.isPageIdChar, Bool.or_eq_true, beq_iff_eq] at h
  rcases h with (((h | rfl) | rfl) | rfl) | rfl
  · exact Text.isBlank_of_isAlphanum h
  all_goals decide

/-- A path is written as it is. -/
theorem escapeAttribute_path (h : ∀ c ∈ path.toList, isPathChar c = true) :
    Html.escapeAttribute path = path := by
  have hsame : path.toList.flatMap Html.escapeAttributeChar = path.toList := by
    rw [List.flatMap_congr fun c hc => escapeAttributeChar_of_isPathChar (h c hc)]
    exact List.flatMap_singleton' _
  rw [Html.escapeAttribute, hsame, String.ofList_toList]

/-- A path has no blanks. -/
theorem squeezed_path (h : ∀ c ∈ path.toList, isPathChar c = true) :
    Minify.squeezed path = path := by
  have hblank : ∀ c ∈ path.toList, Text.isBlank c = false := fun c hc =>
    isBlank_of_isPathChar (h c hc)
  have hspace : ∀ c ∈ path.toList, Text.isBlank c = true → c = ' ' := by
    intro c hc hc'
    rw [hblank c hc] at hc'
    cases hc'
  have hchain : path.toList.IsChain fun a b => Text.isBlank a = true → Text.isBlank b = false :=
    (List.pairwise_of_forall_mem_list fun _ _ b hb => fun _ => hblank b hb).isChain
  rw [Minify.squeezed, Minify.substitute_blankRun_eq_self hspace hchain, String.ofList_toList]

end Paths

/-- The files of the stylesheets that the document of a page links. -/
def ownStylesheets (pageId : String) : List String :=
  sharedStylesheetPath :: stylesheetPaths pageId

theorem toList_ne_nil_of_mem_ownStylesheets {pageId : String} :
    ∀ path ∈ ownStylesheets pageId, path.toList ≠ [] := by
  rw [ownStylesheets, stylesheetPaths, List.forall_mem_cons, List.forall_mem_cons,
    List.forall_mem_singleton, baseStylesheetPath, responsiveStylesheetPath]
  simp [sharedStylesheetPath]

/-- The paths of a page's stylesheets consist of them. -/
theorem isPathChar_of_mem_ownStylesheets {pageId : String}
    (h : ∀ c ∈ pageId.toList, Validation.isPageIdChar c = true) :
    ∀ path ∈ ownStylesheets pageId, ∀ c ∈ path.toList, isPathChar c = true := by
  have hid : ∀ c ∈ pageId.toList, isPathChar c = true := by
    intro c hc
    rw [isPathChar, h c hc]
    rfl
  have hshared : ∀ c ∈ sharedStylesheetPath.toList, isPathChar c = true :=
    Text.forall_mem_of_all (by decide)
  have hstart : ∀ c ∈ "src/".toList, isPathChar c = true := Text.forall_mem_of_all (by decide)
  have hbase : ∀ c ∈ "_index.css".toList, isPathChar c = true :=
    Text.forall_mem_of_all (by decide)
  have hresponsive : ∀ c ∈ "_responsive.css".toList, isPathChar c = true :=
    Text.forall_mem_of_all (by decide)
  rw [ownStylesheets, stylesheetPaths, List.forall_mem_cons, List.forall_mem_cons,
    List.forall_mem_singleton, baseStylesheetPath, responsiveStylesheetPath]
  simp only [String.toList_append, List.forall_mem_append]
  exact ⟨hshared, ⟨⟨hstart, hid⟩, hbase⟩, ⟨⟨hstart, hid⟩, hresponsive⟩⟩

namespace Exporter

variable {x : Exporter} {site : Site}

/-- The document of a page before it is minified. -/
def documentText (site : Site) (blobOf : String → Blob) (request : Option String) (p : Page) :
    String :=
  let head : DocumentHead := ⟨p.documentTitle, p.id, site.description, request⟩
  head.document (Html.body (p.placed (pathOf blobOf site.shownBlobs)) ⟨.static, true⟩ 2)

/-- An exported site has its files in order, each under its own path, and the stylesheets that its
documents link are among them, apart from the request for webfonts. Documents are read as they are
written, and as they are when they are minified in the usual way. -/
structure HasLayout (x : Exporter) (site : Site) (blobOf : String → Blob)
    (request : Option String) (exported : ExportedSite) : Prop where
  stored : ∀ id ∈ site.shownBlobs, x.store.blobs.get? id = some (blobOf id)
  webfonts : x.webfontRequest site.usedFamilies = .ok request
  paths : exported.archive.keys =
    [faviconPath, sharedStylesheetPath] ++ (site.pages.values.map (·.id)).flatMap stylesheetPaths ++
      (site.shownBlobs.zipIdx 1).map (numberedPath blobOf) ++
      site.pages.values.map (documentPath site) ++ [manifestPath]
  distinct : exported.archive.keys.Nodup
  documents : ∀ p ∈ site.pages.values, exported.archive.get? (documentPath site p) =
    some (Utf8.encode (x.finish (documentText site blobOf request p)).toList)
  links : ∀ p ∈ site.pages.values,
    Html.linkedStylesheets (documentText site blobOf request p) =
      request.toList.map Html.escapeAttribute ++ ownStylesheets p.id
  minifiedLinks : ∀ p ∈ site.pages.values,
    Html.linkedStylesheets (Minify.html (documentText site blobOf request p)) =
      request.toList.map (fun url => Minify.squeezed (Html.escapeAttribute url)) ++
        ownStylesheets p.id
  present : ∀ p ∈ site.pages.values, ∀ path ∈ ownStylesheets p.id, path ∈ exported.archive.keys

/-- The text of an address is not empty. -/
theorem toList_text_ne_nil (u : Url) : u.text.toList ≠ [] := by
  rw [Url.text, String.toList_ofList]
  simp

/-- A request for webfonts is not empty. -/
theorem toList_webfontRequest_ne_nil {used : List String} {url : String}
    (h : x.webfontRequest used = .ok (some url)) : url.toList ≠ [] := by
  rw [webfontRequest] at h
  split at h
  · next location _ =>
    rw [Webfont.trim] at h
    cases hparse : Url.parse location with
    | error reason => rw [hparse] at h; cases h
    | ok parsed =>
      simp only [hparse, bind, Except.bind, pure, Except.pure] at h
      cases hquery : parsed.query with
      | none =>
        simp only [hquery, Except.mapError] at h
        obtain rfl := Option.some_inj.1 (Except.ok.inj h)
        exact toList_text_ne_nil _
      | some query =>
        simp only [hquery] at h
        split at h
        · obtain rfl := Option.some_inj.1 (Except.ok.inj h)
          exact toList_text_ne_nil _
        · cases h
  · cases h

/-- The document of a page links the request for webfonts and the stylesheets of the page. -/
theorem links_documentText {p : Page} (hsite : Validation.checkSite site = .ok ())
    (hp : p ∈ site.pages.values) (blobOf : String → Blob) {request : Option String}
    (hrequest : ∀ url ∈ request, url.toList ≠ []) :
    Html.Links (documentText site blobOf request p)
      (request.toList.map Html.escapeAttribute ++ ownStylesheets p.id) ∧
      (ownStylesheets p.id).map Minify.squeezed = ownStylesheets p.id := by
  have hpath : ∀ path ∈ ownStylesheets p.id, ∀ c ∈ path.toList, isPathChar c = true := by
    obtain ⟨entry, hentry, rfl⟩ := List.mem_map.1 hp
    have hpage := Validation.checkPage_of_checkSite hsite entry hentry
    exact isPathChar_of_mem_ownStylesheets (Validation.name_of_checkPage hpage).2.2
  have hescape : (ownStylesheets p.id).map Html.escapeAttribute = ownStylesheets p.id :=
    (List.map_congr_left fun path hmem => escapeAttribute_path (hpath path hmem)).trans
      (List.map_id _)
  refine ⟨?_, ?_⟩
  · have hne : ∀ location ∈ request.toList ++ ownStylesheets p.id, location.toList ≠ [] := by
      exact List.forall_mem_append.2 ⟨fun url hurl => hrequest url (Option.mem_toList.1 hurl),
        toList_ne_nil_of_mem_ownStylesheets⟩
    have hbody := Html.links_page p (pathOf blobOf site.shownBlobs) true 2
    rw [← hescape, ← List.map_append]
    exact Html.links_document hne hbody
  · exact (List.map_congr_left fun path hmem => squeezed_path (hpath path hmem)).trans
      (List.map_id _)

/-- What an export writes has its layout. -/
theorem exists_hasLayout {exported : ExportedSite} (h : x.run site = .ok exported) :
    ∃ blobOf request, HasLayout x site blobOf request exported := by
  obtain ⟨hsite, favicon, blobOf, request, -, hstore, hrequest, -, hentries⟩ :=
    exists_of_run_eq_ok h
  have hkeys : exported.archive.keys = [faviconPath, sharedStylesheetPath] ++
      (site.pages.values.map (·.id)).flatMap stylesheetPaths ++
      (site.shownBlobs.zipIdx 1).map (numberedPath blobOf) ++
      site.pages.values.map (documentPath site) ++ [manifestPath] := by
    rw [OrderedMap.keys, hentries, files, baseFiles, List.map_append, List.map_append,
      List.map_append, map_fst_baseFiles, imageFiles, placedPages, List.map_map, List.map_map,
      List.map_map]
    rfl
  have hnonempty : ∀ url ∈ request, url.toList ≠ [] := fun url hurl =>
    toList_webfontRequest_ne_nil (hurl ▸ hrequest)
  have hlinks {p : Page} (hp : p ∈ site.pages.values) :=
    links_documentText hsite hp blobOf hnonempty
  refine ⟨blobOf, request, hstore, hrequest, hkeys, exported.archive.nodup, ?documents, ?links,
    ?minifiedLinks, ?present⟩
  case documents => exact fun p hp => get?_documentPath hentries hp
  case links => exact fun p hp => (hlinks hp).1.plain
  case minifiedLinks =>
    intro p hp
    rw [(hlinks hp).1.linkedStylesheets_html, List.map_append, List.map_map, (hlinks hp).2]
    rfl
  case present =>
    intro p hp path hpath
    have hstylesheets : path ∈ [faviconPath, sharedStylesheetPath] ++
        (site.pages.values.map (·.id)).flatMap stylesheetPaths := by
      rcases List.mem_cons.1 hpath with rfl | hown
      · exact List.mem_append_left _ (List.mem_cons_of_mem _ List.mem_cons_self)
      · exact List.mem_append_right _
          (List.mem_flatMap.2 ⟨p.id, List.mem_map_of_mem hp, hown⟩)
    rw [hkeys, List.append_assoc, List.append_assoc]
    exact List.mem_append_left _ hstylesheets

/-- The documents of an accepted site have their names, and what an export of it writes has its
layout. -/
theorem run_layout (hsite : Validation.checkSite site = .ok ()) :
    site.HasFileNames ∧ ∀ exported, x.run site = .ok exported →
      ∃ blobOf request, HasLayout x site blobOf request exported :=
  ⟨Site.hasFileNames hsite, fun _ h => exists_hasLayout h⟩

/-- A front page and three pages of which two have the same title, and the third the title that the
second one would get a name from. -/
def gazette : Site :=
  (((Site.new "gazette" "Gazette").insert { Page.new "home" "Home" with isIndex := true }).insert
    (Page.new "about" "About")).insert (Page.new "team" "About") |>.insert
    (Page.new "more" "About 2")

def gazetteExporter : Exporter :=
  .new { ExportConfig.default with webfontUrl := some "file:///fonts.css" } ⟨.empty, .empty⟩
    (.ofList [(ExportConfig.default.faviconUrl, [0, 0, 1, 0])])

/-- The address of the fonts is one without a query. -/
theorem parse_gazetteFonts : Url.parse "file:///fonts.css" =
    .ok { Url.ofScheme "file".toList with
      host := some (.name [])
      path := .segments ["fonts.css".toList] } := by
  decide +kernel

/-- The gazette can be exported. -/
theorem exists_run_gazette : ∃ exported, gazetteExporter.run gazette = .ok exported := by
  have hwebfont : ∀ url ∈ gazetteExporter.config.webfontUrl, ∃ parsed,
      Url.parse url = .ok parsed := by
    rintro url ⟨⟩
    exact ⟨_, parse_gazetteFonts⟩
  have hsite : Validation.checkSite gazette = .ok () := rfl
  have hstore : ∀ id ∈ gazette.referencedBlobs,
      gazetteExporter.store.blobs.get? id = some (default : Blob) := nofun
  obtain ⟨exported, hrun, -⟩ := exists_run hsite rfl hwebfont hstore
  exact ⟨exported, hrun⟩

theorem run_layout_gazette : gazette.HasFileNames ∧ ∃ exported blobOf request,
    gazetteExporter.run gazette = .ok exported ∧
      HasLayout gazetteExporter gazette blobOf request exported := by
  have hsite : Validation.checkSite gazette = .ok () := rfl
  obtain ⟨hnames, hlayout⟩ := run_layout (x := gazetteExporter) hsite
  obtain ⟨exported, hrun⟩ := exists_run_gazette
  obtain ⟨blobOf, request, h⟩ := hlayout exported hrun
  exact ⟨hnames, exported, blobOf, request, hrun, h⟩

/-- Its documents link the request for webfonts, which is no file. -/
theorem gazetteFonts_not_mem_keys : Validation.checkSite gazette = .ok () ∧
    ∃ exported, gazetteExporter.run gazette = .ok exported ∧
      ∀ p ∈ gazette.pages.values, ∃ text,
        exported.archive.get? (documentPath gazette p) = some (Utf8.encode text.toList) ∧
        "file:///fonts.css" ∈ Html.linkedStylesheets text ∧
        "file:///fonts.css" ∉ exported.archive.keys := by
  obtain ⟨exported, hrun⟩ := exists_run_gazette
  obtain ⟨blobOf, request, h⟩ := exists_hasLayout hrun
  have hrequest : request = some "file:///fonts.css" := by
    have hfonts : gazetteExporter.webfontRequest gazette.usedFamilies =
        .ok (some "file:///fonts.css") := by
      change (Webfont.trim "file:///fonts.css" gazette.usedFamilies).mapError .webfontUrl = _
      rw [Webfont.trim, parse_gazetteFonts]
      decide
    exact Except.ok.inj (h.webfonts.symm.trans hfonts)
  have hshown : gazette.shownBlobs = [] := by
    refine List.eq_nil_iff_forall_not_mem.2 fun id hid => ?_
    exact absurd ((Site.mem_shownBlobs rfl).1 hid) List.not_mem_nil
  have hkeys : "file:///fonts.css" ∉ exported.archive.keys := by
    rw [h.paths, hshown, List.zipIdx_nil, List.map_nil]
    decide
  refine ⟨rfl, exported, hrun, fun p hp => ⟨_, h.documents p hp, ?_, hkeys⟩⟩
  have hescape : Html.escapeAttribute "file:///fonts.css" = "file:///fonts.css" := by decide
  change _ ∈ Html.linkedStylesheets (documentText gazette blobOf request p)
  rw [h.links p hp, hrequest, Option.toList_some, List.map_singleton, hescape]
  exact List.mem_append_left _ (List.mem_singleton_self _)

end Exporter

end Sitework
