import Sitework.Style.Breakpoint

/-!
# The cascade

The values in force at a breakpoint are those of the base style, overlaid with each layer that
applies there, widest first. Layers are kept minimal: a layer holds no value that the base and
the wider layers already give.
-/

namespace Sitework.Cascade

/-- The layers of the breakpoints below the base that satisfy a condition, widest first. -/
def layers (overrides : Overrides) (keep : Breakpoint → Bool) : List Style :=
  Breakpoint.responsive.filterMap fun b => if keep b then overrides.get b else none

/-- The style in force at a breakpoint. No layer applies at the base. -/
def resolve (base : Style) (overrides : Overrides) (target : Breakpoint) : Style :=
  if target.isBase then base
  else (layers overrides (·.contains target)).foldl Style.merge base

/-- The style that would be in force at a breakpoint without its own layer. -/
def inherited (base : Style) (overrides : Overrides) (target : Breakpoint) : Style :=
  if target.isBase then base
  else (layers overrides fun b => b.contains target && b != target).foldl Style.merge base

/-- Takes out of the layer at `b` the values that are in force without it. An empty layer goes
away. -/
def pruneAt (base : Style) (overrides : Overrides) (b : Breakpoint) : Overrides :=
  match overrides.get b with
  | none => overrides
  | some layer =>
    let minimal := layer.diff (inherited base overrides b)
    overrides.set b (if minimal.isEmpty then none else some minimal)

/-- Makes every layer minimal, widest first. -/
def prune (base : Style) (overrides : Overrides) : Overrides :=
  Breakpoint.responsive.foldl (pruneAt base) overrides

/-- Sets the values of `update` at a breakpoint: in the base style at the base, and in its layer
elsewhere. The layers are minimal afterwards. -/
def update (base : Style) (overrides : Overrides) (b : Breakpoint) (update : Style) :
    Style × Overrides :=
  if b.isBase then
    (base.merge update, prune (base.merge update) overrides)
  else
    let layer := ((overrides.get b).getD Style.empty).merge update
    (base, prune base (overrides.set b (some layer)))

end Sitework.Cascade
