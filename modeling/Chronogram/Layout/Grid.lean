import Chronogram.Geometry

/-!
The horizontal axis of time.

All lifelines share one grid. The first tick stands at the base of the grid, and each further one a
tick width to the right of the one before.
-/

namespace Chronogram

/-- The positions of ticks. -/
structure Grid (α : Type) where
  base : α
  tickWidth : α
  tickCount : Nat

namespace Grid

variable {α : Type} [Scalar α]

def x (grid : Grid α) (tick : Nat) : α :=
  grid.base + px tick * grid.tickWidth

/-- The position of the last tick; without ticks, the base. -/
def lastX (grid : Grid α) : α :=
  grid.x (grid.tickCount - 1)

end Grid

end Chronogram
