import Sitework.Number.Format
import Sitework.Json.Value

/-!
# Lengths and track sizes

A length is a number of pixels or a sizing keyword; the size of a grid track is a number of pixels
or an equal share. Each has a stored form, a number or a keyword, and a rendered form.
-/

namespace Sitework

/-- Rendered numbers have no exponent and no fraction that is zero. -/
def cssNumber : NumberFormat where
  tie := .up
  keepsFraction := false
  positional := fun _ => true
  infinity := ("inf", "-inf")
  nan := "NaN"

/-- The axis that a length is measured along. It only matters for the full viewport. -/
inductive Axis where
  /-- From left to right. -/
  | horizontal
  /-- From top to bottom. -/
  | vertical
deriving DecidableEq, Repr

/-- A length. -/
inductive Length where
  /-- An absolute number of pixels. -/
  | px (value : Binary64)
  /-- The whole extent of the parent. -/
  | fill
  /-- As much as the content needs. -/
  | auto
  /-- The whole extent of the viewport. -/
  | screen
deriving DecidableEq, Repr, Inhabited

/-- A number of pixels, rendered. -/
def pixels (value : Binary64) : String :=
  cssNumber.write value ++ "px"

namespace Length

/-- Lengths of the same value; the two zeros are the same. -/
def sameValue : Length → Length → Bool
  | .px x, .px y => x == y
  | .px _, _ | _, .px _ => false
  | x, y => decide (x = y)

instance : BEq Length := ⟨sameValue⟩

/-- The rendered form. -/
def css (axis : Axis) : Length → String
  | .px value => pixels value
  | .fill => "100%"
  | .auto => "fit-content"
  | .screen =>
    match axis with
    | .horizontal => "100vw"
    | .vertical => "100vh"

/-- The pixels of an absolute length. -/
def px? : Length → Option Binary64
  | .px value => some value
  | _ => none

/-- The stored form. -/
def toJson : Length → Json
  | .px value => .number value
  | .fill => .string "fill"
  | .auto => .string "auto"
  | .screen => .string "screen"

/-- The length of a stored form. -/
def ofJson? : Json → Option Length
  | .string "fill" => some .fill
  | .string "auto" => some .auto
  | .string "screen" => some .screen
  | value => value.number?.map .px

end Length

/-- The size of a grid track. -/
inductive TrackSize where
  /-- An absolute number of pixels. -/
  | px (value : Binary64)
  /-- An equal share of what is left. -/
  | auto
deriving DecidableEq, Repr, Inhabited

namespace TrackSize

/-- Track sizes of the same value; the two zeros are the same. -/
def sameValue : TrackSize → TrackSize → Bool
  | .px x, .px y => x == y
  | .auto, .auto => true
  | _, _ => false

instance : BEq TrackSize := ⟨sameValue⟩

/-- The rendered form. -/
def css : TrackSize → String
  | .px value => pixels value
  | .auto => "1fr"

/-- The stored form. -/
def toJson : TrackSize → Json
  | .px value => .number value
  | .auto => .string "auto"

/-- The track size of a stored form. -/
def ofJson? : Json → Option TrackSize
  | .string "auto" => some .auto
  | value => value.number?.map .px

end TrackSize

end Sitework
