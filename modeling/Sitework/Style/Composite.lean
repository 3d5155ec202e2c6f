import Sitework.Style.Reading

/-!
# Groups of properties that render together

The parts of the transform, the tracks of the grid and the layout of a flexible box are set one by
one but take effect together. When an update sets some members of a group, the others keep their
present values: those last rendered, else those of the model, else defaults.
-/

namespace Sitework

/-- A group of properties that take effect together. -/
inductive CompositeGroup where
  | transform | grid | flex
deriving DecidableEq, Repr

/-- Where present values come from: what was last rendered has precedence over the model. -/
structure PresentStyle where
  /-- The declarations last rendered, if any were. -/
  rendered : Option Declarations := none
  /-- The style of the model, if it is known. -/
  model : Option Style := none

namespace CompositeGroup

/-- Every group. -/
def all : List CompositeGroup := [.transform, .grid, .flex]

theorem mem_all (g : CompositeGroup) : g ∈ all := by
  cases g <;> decide

/-- The name of the group. -/
def name : CompositeGroup → String
  | .transform => "transform"
  | .grid => "grid"
  | .flex => "flex"

/-- The members of the group. -/
def members : CompositeGroup → List Property
  | .transform => TransformPart.all.map .transform
  | .grid => GridAxis.all.flatMap fun a => [.trackCount a, .trackSize a]
  | .flex => [.display, .flexDirection, .alignItems, .justifyContent]

/-- The values of the members when nothing else is known: no transform, and an equal share for a
number of tracks set later. -/
def defaults : CompositeGroup → Style
  | .transform => Transform.identity.toStyle
  | .grid => { columnWidth := some .auto, rowHeight := some .auto }
  | .flex => Style.empty

/-- The values of the group's members only. -/
def part (g : CompositeGroup) (s : Style) : Style :=
  s.restrict g.members.contains

/-- Whether a style sets a member of the group. -/
def touchedBy (g : CompositeGroup) (s : Style) : Bool :=
  g.members.any fun p => (s.get p).isSome

/-- The present values of the members. -/
def present (g : CompositeGroup) (source : PresentStyle) : Style :=
  let model := source.model.getD Style.empty
  let rendered := (source.rendered.map Style.ofDeclarations).getD Style.empty
  (g.defaults.merge (g.part model)).merge (g.part rendered)

/-- The style `s` with the group's present values below it, if `update` sets a member. -/
def completeFor (update : Style) (source : PresentStyle) (s : Style) (g : CompositeGroup) :
    Style :=
  if g.touchedBy update then (g.present source).merge s else s

end CompositeGroup

namespace Style

/-- The update with every group it touches completed from present values. -/
def complete (update : Style) (source : PresentStyle) : Style :=
  CompositeGroup.all.foldl (CompositeGroup.completeFor update source) update

end Style

end Sitework
