import Sitework.Bundle.FileName
import Sitework.Markup.Html

/-!
# Documents

The document of a page: its head, with links to the favicon, the webfonts and the stylesheets, and
the markup of the page as its body.
-/

namespace Sitework

/-- What the head of a document says. -/
structure DocumentHead where
  /-- The title. -/
  title : String
  /-- The name of the page. -/
  pageId : String
  /-- What the site is about. -/
  description : Option String
  /-- The request for webfonts. -/
  webfontUrl : Option String
deriving DecidableEq, Repr

namespace DocumentHead

/-- A line of the head. -/
def line (text : String) : String :=
  "    " ++ text ++ "\n"

/-- The link to a stylesheet. -/
def stylesheetLink (location : String) : String :=
  line ("<link rel=\"stylesheet\" href=\"" ++ Html.escapeAttribute location ++ "\">")

/-- The stylesheets that the document links, in order. -/
def stylesheets (head : DocumentHead) : List String :=
  head.webfontUrl.toList ++
    [sharedStylesheetPath, baseStylesheetPath head.pageId, responsiveStylesheetPath head.pageId]

/-- The description, if there is one. -/
def descriptionLine (head : DocumentHead) : String :=
  match head.description with
  | some text =>
    line ("<meta name=\"description\" content=\"" ++ Html.escapeAttribute text ++ "\">")
  | none => ""

/-- The lines of the head. -/
def text (head : DocumentHead) : String :=
  line "<meta charset=\"utf-8\">" ++
    line "<meta name=\"viewport\" content=\"width=device-width, initial-scale=1\">" ++
    head.descriptionLine ++
    line ("<title>" ++ Html.escapeText head.title ++ "</title>") ++
    line ("<link rel=\"icon\" href=\"" ++ faviconPath ++ "\">") ++
    String.join (head.stylesheets.map stylesheetLink)

/-- The document with a head and a body. -/
def document (head : DocumentHead) (body : String) : String :=
  "<!DOCTYPE html>\n<html lang=\"en\">\n  <head>\n" ++ head.text ++ "  </head>\n  <body>\n" ++
    body ++ "  </body>\n</html>\n"

end DocumentHead

end Sitework
