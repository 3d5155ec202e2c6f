import Sitework.Style.Basic

/-!
# Rendered properties

The names under which a style is rendered. Most render one style property; a grid template renders
the count and the size of its tracks, and the transform renders its five parts. Every style
property belongs to exactly one rendered property, its `owner`.
-/

namespace Sitework

/-- A property that is rendered under a name of its own. -/
inductive CssProperty where
  | length (p : LengthProperty)
  | borderStyle
  | color (p : ColorProperty)
  | fontFamily | fontSize | fontWeight | textAlign
  | display | flexDirection | alignItems | justifyContent
  | gridTemplate (a : GridAxis)
  | transform
  | position | zIndex
deriving DecidableEq, Repr

namespace CssProperty

/-- Every rendered property, in rendering order. -/
def all : List CssProperty :=
  LengthProperty.all.map .length ++ [.borderStyle] ++ ColorProperty.all.map .color ++
    [.fontFamily, .fontSize, .fontWeight, .textAlign, .display, .flexDirection, .alignItems,
      .justifyContent] ++
    GridAxis.all.map .gridTemplate ++ [.transform, .position, .zIndex]

/-- The rendered name. -/
def name : CssProperty → String
  | .length p => p.css
  | .borderStyle => "border-style"
  | .color p => p.css
  | .fontFamily => "font-family"
  | .fontSize => "font-size"
  | .fontWeight => "font-weight"
  | .textAlign => "text-align"
  | .display => "display"
  | .flexDirection => "flex-direction"
  | .alignItems => "align-items"
  | .justifyContent => "justify-content"
  | .gridTemplate a => a.css
  | .transform => "transform"
  | .position => "position"
  | .zIndex => "z-index"

/-- The rendered property of a name. -/
def ofName? (name : String) : Option CssProperty :=
  all.find? fun d => d.name == name

/-- The rendered property that a style property belongs to. -/
def owner : Property → CssProperty
  | .length p => .length p
  | .borderStyle => .borderStyle
  | .color p => .color p
  | .fontFamily => .fontFamily
  | .fontSize => .fontSize
  | .fontWeight => .fontWeight
  | .textAlign => .textAlign
  | .display => .display
  | .flexDirection => .flexDirection
  | .alignItems => .alignItems
  | .justifyContent => .justifyContent
  | .trackCount a => .gridTemplate a
  | .trackSize a => .gridTemplate a
  | .transform _ => .transform
  | .zIndex => .zIndex
  | .position => .position

theorem mem_all (d : CssProperty) : d ∈ all := by
  cases d with
  | length p => cases p <;> decide
  | color p => cases p <;> decide
  | gridTemplate a => cases a <;> decide
  | _ => decide

/-- A rendered property is found under its name. -/
theorem ofName?_name (d : CssProperty) : ofName? d.name = some d := by
  cases d with
  | length p => cases p <;> decide
  | color p => cases p <;> decide
  | gridTemplate a => cases a <;> decide
  | _ => decide

/-- A property that is found under a name has that name. -/
theorem name_of_ofName? {name : String} {d : CssProperty} (h : ofName? name = some d) :
    d.name = name := by
  simpa using List.find?_some h

end CssProperty

end Sitework
