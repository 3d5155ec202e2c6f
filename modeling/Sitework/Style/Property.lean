import Sitework.Style.Keyword
import Sitework.Style.Length

/-!
# Style properties

The properties that an element can set, with the type of value that each one takes. A property
is known by its stored key; several are rendered under a name of their own, and others only
together (grid templates and the transform).
-/

namespace Sitework

/-- The size of a font: pixels, or the size of the parent. -/
inductive FontSize where
  /-- An absolute number of pixels. -/
  | px (value : Binary64)
  /-- The size that the parent has. -/
  | inherit
deriving DecidableEq, Repr, Inhabited

namespace FontSize

/-- Font sizes of the same value; the two zeros are the same. -/
def sameValue : FontSize → FontSize → Bool
  | .px x, .px y => x == y
  | .inherit, .inherit => true
  | _, _ => false

instance : BEq FontSize := ⟨sameValue⟩

/-- The rendered form. -/
def css : FontSize → String
  | .px value => pixels value
  | .inherit => "inherit"

/-- The stored form. -/
def toJson : FontSize → Json
  | .px value => .number value
  | .inherit => .string "Inherit"

/-- The font size of a stored form. -/
def ofJson? (value : Json) : Option FontSize :=
  if value.choice? .strict = some "Inherit" then some .inherit else value.number?.map .px

end FontSize

/-- The properties whose value is a length. -/
inductive LengthProperty where
  | width | height
  | paddingTop | paddingRight | paddingBottom | paddingLeft
  | marginTop | marginRight | marginBottom | marginLeft
  | gap | borderWidth | borderRadius
deriving DecidableEq, Repr

namespace LengthProperty

/-- Every length property, in rendering order. -/
def all : List LengthProperty :=
  [.width, .height, .paddingTop, .paddingRight, .paddingBottom, .paddingLeft, .marginTop,
    .marginRight, .marginBottom, .marginLeft, .gap, .borderWidth, .borderRadius]

/-- The stored key. -/
def key : LengthProperty → String
  | .width => "width"
  | .height => "height"
  | .paddingTop => "paddingTop"
  | .paddingRight => "paddingRight"
  | .paddingBottom => "paddingBottom"
  | .paddingLeft => "paddingLeft"
  | .marginTop => "marginTop"
  | .marginRight => "marginRight"
  | .marginBottom => "marginBottom"
  | .marginLeft => "marginLeft"
  | .gap => "gap"
  | .borderWidth => "borderWidth"
  | .borderRadius => "borderRadius"

/-- The rendered name. -/
def css : LengthProperty → String
  | .width => "width"
  | .height => "height"
  | .paddingTop => "padding-top"
  | .paddingRight => "padding-right"
  | .paddingBottom => "padding-bottom"
  | .paddingLeft => "padding-left"
  | .marginTop => "margin-top"
  | .marginRight => "margin-right"
  | .marginBottom => "margin-bottom"
  | .marginLeft => "margin-left"
  | .gap => "gap"
  | .borderWidth => "border-width"
  | .borderRadius => "border-radius"

/-- The axis that the full viewport is measured along. -/
def axis : LengthProperty → Axis
  | .width | .paddingRight | .paddingLeft | .marginRight | .marginLeft => .horizontal
  | _ => .vertical

/-- The length that stands in for an unreadable one: a box keeps the size of its content, and
distances vanish. -/
def fallback : LengthProperty → Length
  | .width | .height => .auto
  | _ => .px 0

end LengthProperty

/-- The properties whose value is a color. -/
inductive ColorProperty where
  | border | text | background
deriving DecidableEq, Repr

namespace ColorProperty

/-- Every color property, in rendering order. -/
def all : List ColorProperty := [.border, .text, .background]

/-- The stored key. -/
def key : ColorProperty → String
  | .border => "borderColor"
  | .text => "color"
  | .background => "backgroundColor"

/-- The rendered name. -/
def css : ColorProperty → String
  | .border => "border-color"
  | .text => "color"
  | .background => "background-color"

theorem mem_all (p : ColorProperty) : p ∈ all := by
  cases p <;> decide

end ColorProperty

/-- The two directions of grid tracks. -/
inductive GridAxis where
  | columns | rows
deriving DecidableEq, Repr

namespace GridAxis

/-- Both directions. -/
def all : List GridAxis := [.columns, .rows]

/-- The stored key of the number of tracks. -/
def countKey : GridAxis → String
  | .columns => "columns"
  | .rows => "rows"

/-- The stored key of the size of a track. -/
def sizeKey : GridAxis → String
  | .columns => "columnWidth"
  | .rows => "rowHeight"

/-- The rendered name of the template. -/
def css : GridAxis → String
  | .columns => "grid-template-columns"
  | .rows => "grid-template-rows"

end GridAxis

/-- The parts of the transform. -/
inductive TransformPart where
  | left | top | rotate | scaleX | scaleY
deriving DecidableEq, Repr

namespace TransformPart

/-- Every part, in rendering order. -/
def all : List TransformPart := [.left, .top, .rotate, .scaleX, .scaleY]

/-- The stored key. -/
def key : TransformPart → String
  | .left => "left"
  | .top => "top"
  | .rotate => "rotate"
  | .scaleX => "scaleX"
  | .scaleY => "scaleY"

/-- The value that changes nothing. -/
def identity : TransformPart → Binary64
  | .scaleX | .scaleY => 1
  | _ => 0

end TransformPart

/-- A property of a style. -/
inductive Property where
  | length (p : LengthProperty)
  | borderStyle
  | color (p : ColorProperty)
  | fontFamily | fontSize | fontWeight | textAlign
  | display | flexDirection | alignItems | justifyContent
  | trackCount (a : GridAxis)
  | trackSize (a : GridAxis)
  | transform (p : TransformPart)
  | zIndex | position
deriving DecidableEq, Repr

namespace Property

/-- Every property, in the order of the stored form. -/
def all : List Property :=
  LengthProperty.all.map .length ++ [.borderStyle] ++ ColorProperty.all.map .color ++
    [.fontFamily, .fontSize, .fontWeight, .textAlign, .display, .flexDirection, .alignItems,
      .justifyContent] ++
    GridAxis.all.flatMap (fun a => [.trackCount a, .trackSize a]) ++
    TransformPart.all.map .transform ++ [.zIndex, .position]

/-- The type of a property's values. -/
abbrev Value : Property → Type
  | .length _ => Length
  | .borderStyle => BorderStyle
  | .color _ => String
  | .fontFamily => String
  | .fontSize => FontSize
  | .fontWeight => FontWeight
  | .textAlign => TextAlign
  | .display => Display
  | .flexDirection => FlexDirection
  | .alignItems => AlignItems
  | .justifyContent => JustifyContent
  | .trackCount _ => UInt32
  | .trackSize _ => TrackSize
  | .transform _ => Binary64
  | .zIndex => Int32
  | .position => Position

/-- The stored key. -/
def key : Property → String
  | .length p => p.key
  | .borderStyle => "borderStyle"
  | .color p => p.key
  | .fontFamily => "fontFamily"
  | .fontSize => "fontSize"
  | .fontWeight => "fontWeight"
  | .textAlign => "textAlign"
  | .display => "display"
  | .flexDirection => "flexDirection"
  | .alignItems => "alignItems"
  | .justifyContent => "justifyContent"
  | .trackCount a => a.countKey
  | .trackSize a => a.sizeKey
  | .transform p => p.key
  | .zIndex => "zIndex"
  | .position => "position"

/-- The name in lists of properties: the words of the stored key in lower case, joined by
underscores. -/
def label (p : Property) : String :=
  String.ofList (p.key.toList.flatMap fun c => if c.isUpper then ['_', c.toLower] else [c])

/-- Whether two values of a property are the same value; the two zeros are. -/
def sameValue : (p : Property) → p.Value → p.Value → Bool
  | .length _, x, y => Length.sameValue x y
  | .borderStyle, x, y => decide (x = y)
  | .color _, x, y => decide (x = y)
  | .fontFamily, x, y => decide (x = y)
  | .fontSize, x, y => FontSize.sameValue x y
  | .fontWeight, x, y => decide (x = y)
  | .textAlign, x, y => decide (x = y)
  | .display, x, y => decide (x = y)
  | .flexDirection, x, y => decide (x = y)
  | .alignItems, x, y => decide (x = y)
  | .justifyContent, x, y => decide (x = y)
  | .trackCount _, x, y => decide (x = y)
  | .trackSize _, x, y => TrackSize.sameValue x y
  | .transform _, x, y => Binary64.sameValue x y
  | .zIndex, x, y => decide (x = y)
  | .position, x, y => decide (x = y)

/-- The stored form of a value. -/
def toJson : (p : Property) → p.Value → Json
  | .length _, x => Length.toJson x
  | .borderStyle, x => Keyword.toJson x
  | .color _, x => .string x
  | .fontFamily, x => .string x
  | .fontSize, x => FontSize.toJson x
  | .fontWeight, x => Keyword.toJson x
  | .textAlign, x => Keyword.toJson x
  | .display, x => Keyword.toJson x
  | .flexDirection, x => Keyword.toJson x
  | .alignItems, x => Keyword.toJson x
  | .justifyContent, x => Keyword.toJson x
  | .trackCount _, x => .integer x.toNat
  | .trackSize _, x => TrackSize.toJson x
  | .transform _, x => .number x
  | .zIndex, x => .integer x.toInt
  | .position, x => Keyword.toJson x

/-- The value of a stored form. -/
def ofJson? (form : Json.ChoiceForm) : (p : Property) → Json → Option p.Value
  | .length _, value => Length.ofJson? value
  | .borderStyle, value => Keyword.ofJson? form value
  | .color _, value => value.string?
  | .fontFamily, value => value.string?
  | .fontSize, value => FontSize.ofJson? value
  | .fontWeight, value => Keyword.ofJson? form value
  | .textAlign, value => Keyword.ofJson? form value
  | .display, value => Keyword.ofJson? form value
  | .flexDirection, value => Keyword.ofJson? form value
  | .alignItems, value => Keyword.ofJson? form value
  | .justifyContent, value => Keyword.ofJson? form value
  | .trackCount _, value => (value.integer? 0 (2 ^ 32 - 1)).map fun n => UInt32.ofNat n.toNat
  | .trackSize _, value => TrackSize.ofJson? value
  | .transform _, value => value.number?
  | .zIndex, value => (value.integer? (-(2 ^ 31)) (2 ^ 31 - 1)).map Int32.ofInt
  | .position, value => Keyword.ofJson? form value

theorem mem_all (p : Property) : p ∈ all := by
  cases p with
  | length p => cases p <;> decide
  | color p => cases p <;> decide
  | trackCount a => cases a <;> decide
  | trackSize a => cases a <;> decide
  | transform p => cases p <;> decide
  | _ => decide

end Property

end Sitework
