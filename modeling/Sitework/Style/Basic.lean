import Sitework.Json.Record
import Sitework.Style.Property

/-!
# Styles

A style sets some properties and leaves the others open. Its two views agree: a record with a
field for each property, and a function from properties to values. Operations are stated once for
all properties through the second view.
-/

namespace Sitework

/-- The values of an element's style properties; none where a property is not set. -/
structure Style where
  width : Option Length := none
  height : Option Length := none
  paddingTop : Option Length := none
  paddingRight : Option Length := none
  paddingBottom : Option Length := none
  paddingLeft : Option Length := none
  marginTop : Option Length := none
  marginRight : Option Length := none
  marginBottom : Option Length := none
  marginLeft : Option Length := none
  gap : Option Length := none
  borderWidth : Option Length := none
  borderRadius : Option Length := none
  borderStyle : Option BorderStyle := none
  borderColor : Option String := none
  color : Option String := none
  backgroundColor : Option String := none
  fontFamily : Option String := none
  fontSize : Option FontSize := none
  fontWeight : Option FontWeight := none
  textAlign : Option TextAlign := none
  display : Option Display := none
  flexDirection : Option FlexDirection := none
  alignItems : Option AlignItems := none
  justifyContent : Option JustifyContent := none
  columns : Option UInt32 := none
  columnWidth : Option TrackSize := none
  rows : Option UInt32 := none
  rowHeight : Option TrackSize := none
  left : Option Binary64 := none
  top : Option Binary64 := none
  rotate : Option Binary64 := none
  scaleX : Option Binary64 := none
  scaleY : Option Binary64 := none
  zIndex : Option Int32 := none
  position : Option Position := none
deriving DecidableEq, Repr, Inhabited

namespace Style

/-- The style that sets nothing. -/
def empty : Style := {}

/-- The value of a property. -/
def get (s : Style) : (p : Property) → Option p.Value
  | .length .width => s.width
  | .length .height => s.height
  | .length .paddingTop => s.paddingTop
  | .length .paddingRight => s.paddingRight
  | .length .paddingBottom => s.paddingBottom
  | .length .paddingLeft => s.paddingLeft
  | .length .marginTop => s.marginTop
  | .length .marginRight => s.marginRight
  | .length .marginBottom => s.marginBottom
  | .length .marginLeft => s.marginLeft
  | .length .gap => s.gap
  | .length .borderWidth => s.borderWidth
  | .length .borderRadius => s.borderRadius
  | .borderStyle => s.borderStyle
  | .color .border => s.borderColor
  | .color .text => s.color
  | .color .background => s.backgroundColor
  | .fontFamily => s.fontFamily
  | .fontSize => s.fontSize
  | .fontWeight => s.fontWeight
  | .textAlign => s.textAlign
  | .display => s.display
  | .flexDirection => s.flexDirection
  | .alignItems => s.alignItems
  | .justifyContent => s.justifyContent
  | .trackCount .columns => s.columns
  | .trackCount .rows => s.rows
  | .trackSize .columns => s.columnWidth
  | .trackSize .rows => s.rowHeight
  | .transform .left => s.left
  | .transform .top => s.top
  | .transform .rotate => s.rotate
  | .transform .scaleX => s.scaleX
  | .transform .scaleY => s.scaleY
  | .zIndex => s.zIndex
  | .position => s.position

/-- The style with the values that a function gives. -/
def ofFunction (f : (p : Property) → Option p.Value) : Style where
  width := f (.length .width)
  height := f (.length .height)
  paddingTop := f (.length .paddingTop)
  paddingRight := f (.length .paddingRight)
  paddingBottom := f (.length .paddingBottom)
  paddingLeft := f (.length .paddingLeft)
  marginTop := f (.length .marginTop)
  marginRight := f (.length .marginRight)
  marginBottom := f (.length .marginBottom)
  marginLeft := f (.length .marginLeft)
  gap := f (.length .gap)
  borderWidth := f (.length .borderWidth)
  borderRadius := f (.length .borderRadius)
  borderStyle := f .borderStyle
  borderColor := f (.color .border)
  color := f (.color .text)
  backgroundColor := f (.color .background)
  fontFamily := f .fontFamily
  fontSize := f .fontSize
  fontWeight := f .fontWeight
  textAlign := f .textAlign
  display := f .display
  flexDirection := f .flexDirection
  alignItems := f .alignItems
  justifyContent := f .justifyContent
  columns := f (.trackCount .columns)
  columnWidth := f (.trackSize .columns)
  rows := f (.trackCount .rows)
  rowHeight := f (.trackSize .rows)
  left := f (.transform .left)
  top := f (.transform .top)
  rotate := f (.transform .rotate)
  scaleX := f (.transform .scaleX)
  scaleY := f (.transform .scaleY)
  zIndex := f .zIndex
  position := f .position

@[simp] theorem get_ofFunction (f : (p : Property) → Option p.Value) (p : Property) :
    (ofFunction f).get p = f p := by
  cases p with
  | length p => cases p <;> rfl
  | color p => cases p <;> rfl
  | trackCount a => cases a <;> rfl
  | trackSize a => cases a <;> rfl
  | transform p => cases p <;> rfl
  | _ => rfl

@[simp] theorem ofFunction_get (s : Style) : ofFunction s.get = s := rfl

/-- Styles with the same value for every property are equal. -/
theorem ext_get {s t : Style} (h : ∀ p, s.get p = t.get p) : s = t := by
  rw [← ofFunction_get s, ← ofFunction_get t, funext h]

/-- The style with one property set. -/
def set (s : Style) (p : Property) (value : p.Value) : Style :=
  ofFunction fun q => if h : p = q then some (h ▸ value) else s.get q

/-- The values of `upper` where it sets any, and those of `lower` elsewhere. -/
def merge (lower upper : Style) : Style :=
  ofFunction fun p => (upper.get p).or (lower.get p)

/-- The values of `s` that `base` does not have as well. A property that only `base` sets is not
mentioned: a style can add values and never take one back. -/
def diff (s base : Style) : Style :=
  ofFunction fun p =>
    match s.get p, base.get p with
    | some x, some y => if p.sameValue x y then none else some x
    | x, _ => x

/-- The values of the properties that satisfy a condition. -/
def restrict (s : Style) (keep : Property → Bool) : Style :=
  ofFunction fun p => if keep p then s.get p else none

/-- The properties that are set, in order. -/
def properties (s : Style) : List Property :=
  Property.all.filter fun p => (s.get p).isSome

/-- Whether no property is set. -/
def isEmpty (s : Style) : Bool :=
  s.properties.isEmpty

/-- Whether two optional values of a property are the same value. -/
def sameAt (s t : Style) (p : Property) : Bool :=
  match s.get p, t.get p with
  | some x, some y => p.sameValue x y
  | none, none => true
  | _, _ => false

/-- Whether two styles have the same value for every property; the two zeros are the same. -/
def sameValues (s t : Style) : Bool :=
  Property.all.all (sameAt s t)

instance : BEq Style := ⟨sameValues⟩

@[simp] theorem get_empty (p : Property) : empty.get p = none := by
  cases p with
  | length p => cases p <;> rfl
  | color p => cases p <;> rfl
  | trackCount a => cases a <;> rfl
  | trackSize a => cases a <;> rfl
  | transform p => cases p <;> rfl
  | _ => rfl

@[simp] theorem get_merge (s t : Style) (p : Property) :
    (s.merge t).get p = (t.get p).or (s.get p) := by
  simp [merge]

@[simp] theorem get_restrict (s : Style) (keep : Property → Bool) (p : Property) :
    (s.restrict keep).get p = if keep p then s.get p else none := by
  simp [restrict]

theorem get_set_self (s : Style) (p : Property) (value : p.Value) :
    (s.set p value).get p = some value := by
  simp [set]

theorem get_set_of_ne (s : Style) {p q : Property} (value : p.Value) (h : p ≠ q) :
    (s.set p value).get q = s.get q := by
  simp [set, h]

/-- Stored styles have a member for each property that is set. -/
def toJson (s : Style) : Json :=
  .object <| Property.all.flatMap fun p => Json.optionalMember p.key ((s.get p).map p.toJson)

/-- The style of a stored form, which holds nothing but style properties. -/
def ofJson? (form : Json.ChoiceForm) (value : Json) : Option Style := do
  let names := Property.all.map Property.key
  let members ← Json.recordMembers? names value
  if members.all fun member => names.contains member.1 then
    Property.all.foldlM (fun s p => do
      match ← Json.Members.optional? members p.key (p.ofJson? form) with
      | some x => return s.set p x
      | none => return s) empty
  else none

end Style

end Sitework
