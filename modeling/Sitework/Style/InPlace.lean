import Sitework.Style.Reading

/-!
# Declarations applied in place

The reader of declarations as it works on one style that it changes. A declaration is read as a
whole before anything is assigned, and then its values are assigned one by one; whatever was
assigned when something fails stays assigned. For a declaration that cannot be read, defaults are
assigned in the same way. The outcome is that of the reader that gives a new style each time.
-/

namespace Sitework

/-- A change of a style. -/
abbrev StyleChange := StateM Style Unit

/-- A change of a style that may fail on its way. -/
abbrev StyleAttempt (ε : Type) : Type → Type := ExceptT ε (StateM Style)

namespace InPlace

/-- Assigns the value of one property. -/
def assign (p : Property) (x : p.Value) : StyleChange :=
  modify (·.set p x)

/-- Assigns the count of the tracks, and then their size. -/
def assignTracks (tracks : GridTracks) (a : GridAxis) : StyleChange := do
  assign (.trackCount a) tracks.count
  assign (.trackSize a) tracks.size

/-- Assigns the parts of a transform, one after the other. -/
def assignTransform (t : Transform) : StyleChange :=
  TransformPart.all.forM fun part => assign (.transform part) (t.get part)

end InPlace

open InPlace

namespace CssProperty

/-- Reads a value, and then assigns what was read. -/
def assignRead {α : Type} (reading : Value.Reading α) (edit : α → StyleChange) :
    StyleAttempt ValueFault Unit := do
  let x ← liftExcept reading
  ExceptT.lift (edit x)

/-- Assigns what is read for a property. -/
def write (value : String) : CssProperty → StyleAttempt ValueFault Unit
  | .length p => assignRead (Value.length value) (assign (.length p))
  | .borderStyle => assignRead (Value.keyword "unknown border style" value) (assign .borderStyle)
  | .color p => assignRead (Value.color value) (assign (.color p))
  | .fontFamily => assignRead (Value.fontFamily value) (assign .fontFamily)
  | .fontSize => assignRead (Value.fontSize value) (assign .fontSize)
  | .fontWeight => assignRead (Value.fontWeight value) (assign .fontWeight)
  | .textAlign => assignRead (Value.keyword "unknown alignment" value) (assign .textAlign)
  | .display => assignRead (Value.keyword "unknown display" value) (assign .display)
  | .flexDirection => assignRead (Value.keyword "unknown direction" value) (assign .flexDirection)
  | .alignItems => assignRead (Value.keyword "unknown alignment" value) (assign .alignItems)
  | .justifyContent =>
    assignRead (Value.keyword "unknown distribution" value) (assign .justifyContent)
  | .gridTemplate a => assignRead (Value.gridTemplate value) (assignTracks · a)
  | .transform => assignRead (Value.transform value) assignTransform
  | .position => assignRead (Value.keyword "unsupported position" value) (assign .position)
  | .zIndex => assignRead (Value.zIndex value) (assign .zIndex)

/-- The value that is applied in place of a length that cannot be read. -/
def fallbackText : LengthProperty → String
  | .width | .height => "fit-content"
  | _ => "0"

/-- Assigns the default for a property, if it has one. -/
def writeFallback : CssProperty → StyleChange
  | .length p => discard (write (fallbackText p) (.length p)).run
  | .gridTemplate a => assignTracks ⟨1, .auto⟩ a
  | .transform => assignTransform .identity
  | .zIndex => assign .zIndex 0
  | _ => pure ()

end CssProperty

namespace InPlace

/-- Applies one declaration. -/
def declare (name value : String) : StyleAttempt DeclarationError Unit :=
  match CssProperty.ofName? name with
  | none => throw (.unknownProperty name)
  | some d => (d.write value).adapt (.invalidValue name)

/-- Applies one declaration, or the default for its property if the value cannot be read. -/
def absorb (name value : String) : StyleChange := do
  match ← (declare name value).run with
  | .ok () => pure ()
  | .error (.unknownProperty _) => pure ()
  | .error (.invalidValue _ _) => (CssProperty.ofName? name).forM CssProperty.writeFallback

/-- Applies declarations one after the other, which render on top of an inherited position, and
takes an implied position out in the end. -/
def read (declarations : Declarations) (inherited : Option Position) : StyleChange := do
  declarations.entries.forM fun entry => absorb entry.1 entry.2
  if inherited.isNone then modify Style.withoutImpliedPosition

end InPlace

end Sitework
