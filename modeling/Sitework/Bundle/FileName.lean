import Sitework.Page

/-!
# Names of the files of a bundle

The front page is `index.html`. Every other page is named for its title, with a number where two
pages would share a name. Each page has two stylesheets, named for the page.
-/

namespace Sitework

/-- The file of the favicon. -/
def faviconPath : String := "src/favicon.ico"

/-- The file of the rules that every page shares. -/
def sharedStylesheetPath : String := "src/style.css"

/-- The file of a page's rules at the base. -/
def baseStylesheetPath (pageId : String) : String :=
  "src/" ++ pageId ++ "_index.css"

/-- The file of a page's rules at the narrower breakpoints. -/
def responsiveStylesheetPath (pageId : String) : String :=
  "src/" ++ pageId ++ "_responsive.css"

namespace FileName

/-- A title's stem and its first `n` numbered forms. -/
def candidates (stem : String) (n : Nat) : List String :=
  stem :: (List.range n).map fun k => stem ++ "-" ++ toString (k + 2)

/-- The first of the forms of a stem that is not taken. There are more forms than taken names. -/
def free (taken : List String) (stem : String) : String :=
  ((candidates stem taken.length).find? fun name => !taken.contains name).getD stem

/-- The names with one for a page, unless it has one already. -/
def name (names : OrderedMap String) (p : Page) : OrderedMap String :=
  if names.contains p.id then names
  else names.insert p.id (free names.values (slugify p.name))

/-- The name of the front page, under its own. -/
def front (s : Site) : OrderedMap String :=
  .ofList (s.indexPage?.toList.map fun p => (p.id, "index"))

end FileName

namespace Site

/-- The file of each page, by name of the page; that of the front page comes first. -/
def fileNames (s : Site) : OrderedMap String :=
  (s.pages.values.foldl FileName.name (FileName.front s)).map (· ++ ".html")

end Site

end Sitework
