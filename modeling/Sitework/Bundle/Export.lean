import Sitework.Bundle.Archive
import Sitework.Bundle.Config
import Sitework.Bundle.Document
import Sitework.Bundle.Inventory
import Sitework.Bundle.Webfont
import Sitework.Compilation
import Sitework.Minify.Css
import Sitework.Minify.Html
import Sitework.Store
import Sitework.Stylesheet

/-!
# Exporting a site

A site becomes an archive: the favicon and the rules that every page shares, two stylesheets for
each page, the images in the order in which pages show them, a document for each page, and the
manifest. Images that name a blob get the path of its file, and the request for webfonts is cut
down to the families that some page applies. There is no archive if anything fails.
-/

namespace Sitework

/-- Why a site cannot be exported. -/
inductive ExportError where
  /-- The site is not valid. -/
  | invalidSite (reason : ValidationError)
  /-- The favicon cannot be fetched. -/
  | favicon (location : String) (reason : StoreError)
  /-- The blob of an image cannot be read. -/
  | blob (blobId : String) (reason : StoreError)
  /-- The request for webfonts is no URL. -/
  | webfontUrl (reason : UrlError)
  /-- Two files have the same path. -/
  | archive (reason : ArchiveError)
deriving DecidableEq, Repr

/-- The text of the error. -/
def ExportError.message : ExportError → String
  | .invalidSite reason => "invalid site: " ++ reason.message
  | .favicon location reason =>
    "favicon " ++ location ++ " could not be fetched: " ++ reason.message
  | .blob blobId reason => "image blob " ++ blobId ++ " could not be read: " ++ reason.message
  | .webfontUrl reason => "invalid webfont url: " ++ reason.message
  | .archive reason => "archive error: " ++ reason.message

/-- An exported site. -/
structure ExportedSite where
  /-- The files. -/
  archive : Archive
  /-- The manifest among the files. -/
  manifest : Manifest
deriving Repr, Inhabited

/-- How sites are exported. -/
structure Exporter where
  /-- The settings. -/
  config : ExportConfig
  /-- Where blobs come from. -/
  store : Store
  /-- Where the favicon comes from. -/
  assets : Assets
  /-- How stylesheets are minified. -/
  minifyCss : String → String
  /-- How documents are minified. -/
  minifyHtml : String → String

namespace Exporter

/-- An exporter with the usual ways to minify. -/
def new (config : ExportConfig) (store : Store) (assets : Assets) : Exporter :=
  ⟨config, store, assets, Minify.css, Minify.html⟩

/-- The outcome of a step. -/
abbrev Step (α : Type) := Except ExportError α

/-- A stylesheet as it is written. -/
def stylesheet (x : Exporter) (text : String) : String :=
  if x.config.minify then x.minifyCss text else text

/-- A document as it is written. -/
def finish (x : Exporter) (document : String) : String :=
  if x.config.minify then x.minifyHtml document else document

/-- The archive with one more file. -/
def add (archive : Archive) (path : String) (bytes : List UInt8) : Step Archive :=
  (Archive.add archive path bytes).mapError .archive

/-- The archive with one more file that holds a text. -/
def addText (archive : Archive) (path text : String) : Step Archive :=
  (Archive.addText archive path text).mapError .archive

/-- Adds the favicon and the rules that every page shares. -/
def addShared (x : Exporter) (archive : Archive) : Step Archive := do
  let location := x.config.faviconUrl
  let favicon ← (Assets.fetch x.assets location).mapError (.favicon location)
  let archive ← add archive faviconPath favicon
  addText archive sharedStylesheetPath (x.stylesheet x.config.sharedRules)

/-- Adds the stylesheets of a page. -/
def addStylesheets (x : Exporter) (archive : Archive) (p : Page) : Step Archive := do
  let archive ← addText archive (baseStylesheetPath p.id) (x.stylesheet p.stylesheets.base)
  addText archive (responsiveStylesheetPath p.id) (x.stylesheet p.stylesheets.responsive)

/-- Files and images so far. -/
structure Progress where
  /-- The files. -/
  archive : Archive
  /-- The images and fonts. -/
  inventory : Inventory

/-- The path of a blob's image, which is added unless it is there already. -/
def addImage (x : Exporter) (progress : Progress) (blobId : String) : Step (Progress × String) :=
  match progress.inventory.path? blobId with
  | some path => .ok (progress, path)
  | none => do
    let blob ← (x.store.blob blobId).mapError (.blob blobId)
    let (inventory, path) :=
      progress.inventory.addImage blobId (Blob.extension blob.mime) blob.toDataUrl
    let archive ← add progress.archive path blob.data
    return (⟨archive, inventory⟩, path)

/-- Adds the image of a node that names a blob, and sets the source of the node to its path. -/
def placeImage (x : Exporter) (state : Progress × MarkupTree) (i : Nat) :
    Step (Progress × MarkupTree) :=
  match state.2.get? i with
  | none => .ok state
  | some n =>
    match n.attribute? Compilation.blobAttribute with
    | none => .ok state
    | some blobId => do
      let (progress, path) ← x.addImage state.1 blobId
      return (progress, state.2.set i (n.setAttribute "src" path))

/-- The markup of a page with its images in place; the images and the fonts are recorded. -/
def markup (x : Exporter) (progress : Progress) (p : Page) : Step (Progress × MarkupTree) := do
  let tree := p.compile .monitor
  let images := tree.query fun n => (n.attribute? Compilation.blobAttribute).isSome
  let (progress, tree) ← images.foldlM x.placeImage (progress, tree)
  return ({ progress with inventory := progress.inventory.addFamilies tree.fontFamilies }, tree)

/-- The markup of some pages, one after the other. -/
def markups (x : Exporter) (progress : Progress) :
    List Page → Step (Progress × List (Page × MarkupTree))
  | [] => .ok (progress, [])
  | p :: ps => do
    let (progress, tree) ← x.markup progress p
    let (progress, trees) ← x.markups progress ps
    return (progress, (p, tree) :: trees)

/-- The request for the webfonts that pages apply. -/
def webfontRequest (x : Exporter) (used : List String) : Step (Option String) :=
  match x.config.webfontUrl with
  | some url => (Webfont.trim url used).mapError .webfontUrl
  | none => .ok none

/-- The document of a page. -/
def document (x : Exporter) (site : Site) (webfontUrl : Option String) (p : Page)
    (tree : MarkupTree) : String :=
  let head : DocumentHead := ⟨p.documentTitle, p.id, site.description, webfontUrl⟩
  x.finish (head.document (Html.body tree ⟨.static, true⟩ 2))

/-- Adds the document of a page. -/
def addDocument (x : Exporter) (site : Site) (webfontUrl : Option String) (archive : Archive)
    (page : Page × MarkupTree) : Step Archive :=
  let name := (site.fileNames.get? page.1.id).getD (page.1.id ++ ".html")
  addText archive name (x.document site webfontUrl page.1 page.2)

/-- Exports a site. -/
def run (x : Exporter) (site : Site) : Step ExportedSite := do
  (Validation.checkSite site).mapError .invalidSite
  let archive ← x.addShared OrderedMap.empty
  let archive ← site.pages.values.foldlM x.addStylesheets archive
  let (progress, pages) ← x.markups ⟨archive, Inventory.empty⟩ site.pages.values
  let webfontUrl ← x.webfontRequest progress.inventory.usedFamilies
  let archive ← pages.foldlM (x.addDocument site webfontUrl) progress.archive
  let manifest := Manifest.new site progress.inventory.images
  let archive ← addText archive manifestPath manifest.text
  return ⟨archive, manifest⟩

end Exporter

end Sitework
