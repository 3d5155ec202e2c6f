import Sitework.Style.CssProperty

/-!
# Transforms

A transform moves, turns and scales a box. A style sets its five parts one by one, but it is
rendered and read as a whole.
-/

namespace Sitework

/-- A transform of a box. -/
structure Transform where
  /-- The distance to the right, in pixels. -/
  left : Binary64
  /-- The distance down, in pixels. -/
  top : Binary64
  /-- The angle, in degrees. -/
  rotate : Binary64
  /-- The horizontal factor. -/
  scaleX : Binary64
  /-- The vertical factor. -/
  scaleY : Binary64
deriving DecidableEq, Repr, Inhabited

namespace Transform

/-- The part of a transform. -/
def get (t : Transform) : TransformPart → Binary64
  | .left => t.left
  | .top => t.top
  | .rotate => t.rotate
  | .scaleX => t.scaleX
  | .scaleY => t.scaleY

/-- A condition on the parts is one on the five numbers. -/
theorem forall_get_iff (P : Binary64 → Prop) {t : Transform} :
    (∀ p, P (t.get p)) ↔ P t.left ∧ P t.top ∧ P t.rotate ∧ P t.scaleX ∧ P t.scaleY := by
  constructor
  · intro h
    exact ⟨h .left, h .top, h .rotate, h .scaleX, h .scaleY⟩
  · rintro ⟨hleft, htop, hrotate, hscaleX, hscaleY⟩ p
    cases p <;> assumption

/-- The transform that changes nothing. -/
def identity : Transform where
  left := TransformPart.left.identity
  top := TransformPart.top.identity
  rotate := TransformPart.rotate.identity
  scaleX := TransformPart.scaleX.identity
  scaleY := TransformPart.scaleY.identity

/-- The style that sets all parts. -/
def toStyle (t : Transform) : Style where
  left := some t.left
  top := some t.top
  rotate := some t.rotate
  scaleX := some t.scaleX
  scaleY := some t.scaleY

/-- The transform of a style that sets all parts. -/
def ofStyle? (s : Style) : Option Transform :=
  match s.left, s.top, s.rotate, s.scaleX, s.scaleY with
  | some left, some top, some rotate, some scaleX, some scaleY =>
    some ⟨left, top, rotate, scaleX, scaleY⟩
  | _, _, _, _, _ => none

/-- The rendered form. -/
def css (t : Transform) : String :=
  "translate(" ++ pixels t.left ++ ", " ++ pixels t.top ++ ") rotate(" ++
    cssNumber.write t.rotate ++ "deg) scale(" ++ cssNumber.write t.scaleX ++ ", " ++
    cssNumber.write t.scaleY ++ ")"

@[simp] theorem ofStyle?_toStyle (t : Transform) : ofStyle? t.toStyle = some t := rfl

end Transform

/-- The tracks of a grid in one direction. -/
structure GridTracks where
  /-- The number of tracks. -/
  count : UInt32
  /-- The size of each track. -/
  size : TrackSize
deriving DecidableEq, Repr, Inhabited

namespace GridTracks

/-- The style that sets the tracks in one direction. -/
def toStyle (tracks : GridTracks) : GridAxis → Style
  | .columns => { columns := some tracks.count, columnWidth := some tracks.size }
  | .rows => { rows := some tracks.count, rowHeight := some tracks.size }

/-- The tracks of a style that sets their number and their size. -/
def ofStyle? (s : Style) (a : GridAxis) : Option GridTracks :=
  match s.get (.trackCount a), s.get (.trackSize a) with
  | some count, some size => some ⟨count, size⟩
  | _, _ => none

/-- The rendered form. -/
def css (tracks : GridTracks) : String :=
  "repeat(" ++ toString tracks.count.toNat ++ ", " ++ tracks.size.css ++ ")"

end GridTracks

end Sitework
