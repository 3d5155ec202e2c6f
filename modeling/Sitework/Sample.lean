import Sitework.Bundle.Export

/-!
# A sample site

A site of two pages that shows every part of the library: a landing page with a heading, a text, a
button and a grid, and a page about the team with an image and an input field.
-/

namespace Sitework.Sample

/-- The section of the landing page. -/
def hero : Element :=
  (Element.new "section-1" .pageSection).withStyle
    { height := some .screen, display := some .flex, flexDirection := some .column,
      alignItems := some .center }

/-- The heading of the landing page. -/
def heading : Element :=
  (((Element.new "heading-1" (.heading 1)).withParent "section-1").withContent "Welcome").withStyle
      { fontFamily := some "Playfair Display", fontSize := some (.px (.ofInt 32)),
        fontWeight := some .bold } |>.applyStyle .tablet { fontSize := some (.px (.ofInt 24)) }

/-- The text of the landing page. -/
def copy : Element :=
  (((Element.new "text-1" .text).withParent "section-1").withContent
    "Build pages visually.").withStyle { color := some "#333333" }

/-- The button of the landing page. -/
def callToAction : Element :=
  (((Element.new "button-1" (.button (some "about-us.html"))).withParent "section-1").withContent
    "Learn more").withStyle
      { paddingTop := some (.px (.ofInt 12)), paddingBottom := some (.px (.ofInt 12)),
        backgroundColor := some "#1d4ed8", color := some "#ffffff", zIndex := some 1 }
    |>.applyStyle .smartphone { width := some .fill }

/-- The grid of the landing page. -/
def grid : Element :=
  ((Element.new "grid-1" .grid).withParent "section-1").withStyle
      { display := some .grid, columns := some 3, columnWidth := some .auto,
        gap := some (.px (.ofInt 16)) }
    |>.applyStyle .smartphone { columns := some 1 }

/-- The front page. -/
def landingPage : Page :=
  { Page.new "home" "Home" with title := some "Welcome", isIndex := true }.insertAll
    [hero, heading, copy, callToAction, grid]

/-- The name of the team photo. -/
def teamPhotoId : String := "blob-team-photo"

/-- The image of the team. -/
def teamImage : Element :=
  ((Element.new "image-1" (.image (.blob teamPhotoId) (some "Our team"))).withParent
    "section-about").withStyle { width := some .fill, rotate := some (.ofInt (-2)) }

/-- The input field for an address. -/
def addressField : Element :=
  (Element.new "input-1" (.input .email (some "you@example.com") true)).withParent "section-about"

/-- The page about the team. -/
def aboutPage : Page :=
  (Page.new "about" "About Us").insertAll
    [Element.new "section-about" .pageSection, teamImage, addressField]

/-- The site. -/
def site : Site :=
  { (((Site.new "site-1" "Sample").insert landingPage).insert aboutPage) with
    description := some "A sample site" }

/-- The signature of an image file and a few bytes after it. -/
def teamPhoto : Blob :=
  ⟨"image/png", [0x89, 0x50, 0x4E, 0x47, 0x0D, 0x0A, 0x1A, 0x0A, 1, 2, 3, 4]⟩

/-- A store with the team photo. -/
def store : Store :=
  Store.empty.putBlob teamPhotoId teamPhoto

/-- The bytes of the favicon. -/
def favicon : List UInt8 := [0, 0, 1, 0, 1, 0]

/-- The favicon under its usual location. -/
def assets : Assets :=
  OrderedMap.empty.insert ExportConfig.default.faviconUrl favicon

/-- Settings with a request for two families. -/
def config : ExportConfig :=
  { ExportConfig.default with
    webfontUrl := some <|
      "https://fonts.googleapis.com/css2?family=Playfair+Display:wght@700&family=Lora" ++
        "&display=swap" }

end Sitework.Sample
