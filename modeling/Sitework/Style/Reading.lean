import Sitework.Style.Rendering
import Sitework.Style.Value

/-!
# Reading a style

Declarations are read one by one. Each contributes values for the style properties that its
rendered property owns, and for no others; one that cannot be read contributes a harmless default,
or nothing. So the order of the declarations does not matter.
-/

namespace Sitework

namespace CssProperty

/-- The values that a declaration of a property contributes. -/
def read (value : String) : CssProperty → Value.Reading Style
  | .length p => (Value.length value).map (Style.empty.set (.length p) ·)
  | .borderStyle =>
    (Value.keyword "unknown border style" value).map fun x => { borderStyle := some x }
  | .color p => (Value.color value).map (Style.empty.set (.color p) ·)
  | .fontFamily => (Value.fontFamily value).map fun x => { fontFamily := some x }
  | .fontSize => (Value.fontSize value).map fun x => { fontSize := some x }
  | .fontWeight => (Value.fontWeight value).map fun x => { fontWeight := some x }
  | .textAlign => (Value.keyword "unknown alignment" value).map fun x => { textAlign := some x }
  | .display => (Value.keyword "unknown display" value).map fun x => { display := some x }
  | .flexDirection =>
    (Value.keyword "unknown direction" value).map fun x => { flexDirection := some x }
  | .alignItems => (Value.keyword "unknown alignment" value).map fun x => { alignItems := some x }
  | .justifyContent =>
    (Value.keyword "unknown distribution" value).map fun x => { justifyContent := some x }
  | .gridTemplate a => (Value.gridTemplate value).map (·.toStyle a)
  | .transform => (Value.transform value).map Transform.toStyle
  | .position => (Value.keyword "unsupported position" value).map fun x => { position := some x }
  | .zIndex => (Value.zIndex value).map fun x => { zIndex := some x }

/-- What a declaration contributes whose value cannot be read: a box keeps the size of its
content, distances and stacking vanish, a grid has one equal track, and a transform changes
nothing. Other properties stay unset. -/
def fallback : CssProperty → Style
  | .length p => Style.empty.set (.length p) p.fallback
  | .gridTemplate a => GridTracks.toStyle ⟨1, .auto⟩ a
  | .transform => Transform.identity.toStyle
  | .zIndex => { zIndex := some 0 }
  | _ => Style.empty

/-- The values that a declaration contributes in any case. -/
def contribution (d : CssProperty) (value : String) : Style :=
  match d.read value with
  | .ok values => values
  | .error _ => d.fallback

end CssProperty

namespace Style

/-- The style after one declaration. -/
def declare (s : Style) (name value : String) : Except DeclarationError Style :=
  match CssProperty.ofName? name with
  | none => .error (.unknownProperty name)
  | some d =>
    match d.read value with
    | .ok values => .ok (s.merge values)
    | .error fault => .error (.invalidValue name fault)

/-- The style with what one declaration contributes; unknown properties contribute nothing. -/
def absorb (s : Style) (name value : String) : Style :=
  match CssProperty.ofName? name with
  | none => s
  | some d => s.merge (d.contribution value)

/-- The style without a relative position that its stacking order implies. -/
def withoutImpliedPosition (s : Style) : Style :=
  if s.zIndex.isSome && s.position == some .relative then { s with position := none } else s

/-- Reads declarations that render on top of an inherited position. Next to a stacking order a
relative position counts as implied, unless a position is inherited. -/
def ofDeclarationsOver (declarations : Declarations) (inherited : Option Position) : Style :=
  let s := declarations.entries.foldl (fun s entry => s.absorb entry.1 entry.2) empty
  if inherited.isNone then s.withoutImpliedPosition else s

/-- Reads the declarations of a style. -/
def ofDeclarations (declarations : Declarations) : Style :=
  ofDeclarationsOver declarations none

end Style

end Sitework
