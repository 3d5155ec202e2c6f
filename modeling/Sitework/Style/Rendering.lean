import Sitework.Style.Declarations
import Sitework.Style.Transform

/-!
# Rendering a style

Each property that is set renders one declaration, in a fixed order. A grid template needs its
count and its size, and the transform all five of its parts; they render nothing before that. A
stacking order without a position renders a relative position as well.
-/

namespace Sitework

/-- A font family in quotes, with a generic family to fall back on. -/
def fontFamilyCss (family : String) : String :=
  "\"" ++ family ++ "\", sans-serif"

namespace CssProperty

/-- The value that a style renders for a property, if it renders one. -/
def render? (s : Style) : CssProperty → Option String
  | .length p => (s.get (.length p)).map (Length.css p.axis)
  | .borderStyle => s.borderStyle.map Keyword.css
  | .color p => s.get (.color p)
  | .fontFamily => s.fontFamily.map fontFamilyCss
  | .fontSize => s.fontSize.map FontSize.css
  | .fontWeight => s.fontWeight.map Keyword.css
  | .textAlign => s.textAlign.map Keyword.css
  | .display => s.display.map Keyword.css
  | .flexDirection => s.flexDirection.map Keyword.css
  | .alignItems => s.alignItems.map Keyword.css
  | .justifyContent => s.justifyContent.map Keyword.css
  | .gridTemplate a => (GridTracks.ofStyle? s a).map GridTracks.css
  | .transform => (Transform.ofStyle? s).map Transform.css
  | .position => s.position.map Keyword.css
  | .zIndex => s.zIndex.map fun z => toString z.toInt

end CssProperty

namespace Style

/-- Whether a stacking order implies a relative position: one that has no position beside it. -/
def impliesPosition (s : Style) : Bool :=
  s.zIndex.isSome && s.position.isNone

/-- The names and values that render a style, in order; no name occurs twice. -/
def rendered (s : Style) : List (String × String) :=
  (CssProperty.all.filterMap fun d => (d.render? s).map (d.name, ·)) ++
    if s.impliesPosition then [(CssProperty.position.name, Keyword.css Position.relative)] else []

/-- The declarations that render a style. -/
def declarations (s : Style) : Declarations :=
  OrderedMap.ofList s.rendered

end Style

end Sitework
