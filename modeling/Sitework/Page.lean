import Sitework.Element
import Sitework.Names

/-!
# Pages and sites

A page is an ordered set of elements that refer to each other by name; a site is an ordered set of
pages. Both are kept under their names.
-/

namespace Sitework

/-- A page. -/
structure Page where
  /-- The name by which the site refers to the page. -/
  id : String
  /-- The name for people. -/
  name : String
  /-- The title of the document, if it is not the name. -/
  title : Option String
  /-- Whether the page is the front page of its site. -/
  isIndex : Bool
  /-- The elements under their names. -/
  elements : OrderedMap Element
deriving Repr, Inhabited

/-- A site. -/
structure Site where
  /-- The name by which the store refers to the site. -/
  id : String
  /-- The name for people. -/
  name : String
  /-- What the site is about. -/
  description : Option String
  /-- The pages under their names. -/
  pages : OrderedMap Page
deriving Repr, Inhabited

namespace Page

/-- A page without elements. -/
def new (id name : String) : Page :=
  ⟨id, name, none, false, OrderedMap.empty⟩

/-- The page with an element under its own name: a known element is replaced in place. -/
def insert (p : Page) (e : Element) : Page :=
  { p with elements := p.elements.insert e.id e }

/-- The page with some elements inserted one after the other. -/
def insertAll (p : Page) (es : List Element) : Page :=
  es.foldl insert p

/-- The breakpoints at which some element has a layer, narrowest first. -/
def responsiveBreakpoints (p : Page) : List Breakpoint :=
  Breakpoint.all.filter fun b => p.elements.values.any fun e => (e.responsive.get b).isSome

/-- The title of the document. -/
def documentTitle (p : Page) : String :=
  p.title.getD p.name

end Page

namespace Site

/-- A site without pages. -/
def new (id name : String) : Site :=
  ⟨id, name, none, OrderedMap.empty⟩

/-- The site with a page under its own name: a known page is replaced in place. -/
def insert (s : Site) (p : Page) : Site :=
  { s with pages := s.pages.insert p.id p }

/-- The first page marked as the front page. -/
def indexPage? (s : Site) : Option Page :=
  s.pages.values.find? (·.isIndex)

/-- The blob of an image element. -/
def blobOf? (e : Element) : Option String :=
  match e.kind with
  | .image (.blob id) _ => some id
  | _ => none

/-- The blobs that image elements refer to, in order of pages and elements. -/
def referencedBlobs (s : Site) : List String :=
  Names.distinct (s.pages.values.flatMap fun p => p.elements.values.filterMap blobOf?)

end Site

/-- The characters of a file name for a title: ASCII letters in lower case and digits, with one
dash for each run of other characters between them. -/
def slugChars (pendingDash : Bool) (started : Bool) : List Char → List Char
  | [] => []
  | c :: cs =>
    if c.isAlphanum then
      let rest := c.toLower :: slugChars false true cs
      if pendingDash && started then '-' :: rest else rest
    else slugChars true started cs

/-- A file name for a title; `page` for one without letters or digits. -/
def slugify (title : String) : String :=
  match slugChars false false title.toList with
  | [] => "page"
  | slug => String.ofList slug

end Sitework
