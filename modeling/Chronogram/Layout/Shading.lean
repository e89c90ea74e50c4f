import Chronogram.Layout.Grid
import Chronogram.Timeline

/-!
Coloured slices of time.

Every observation of a sliced lifeline opens a slice that lasts until its next observation, or until
the last tick. A line separates it from what went before, and its colour tells its state. A slice
without width is left out, but not its line.
-/

namespace Chronogram

/-- The colours of slices, taken in turn by state index. -/
def palette : List String :=
  ["#fde2e4", "#dfe7fd", "#e2ece9", "#fff1e6", "#e9e4f0", "#d3f8e2", "#fad2e1", "#f0efeb"]

def fillOf (state : Nat) : String :=
  palette.get ⟨state % palette.length, Nat.mod_lt _ (by decide)⟩

/-- A coloured slice. -/
structure Shade (α : Type) where
  fromTick : Nat
  toTick : Nat
  state : Nat
  origin : Point α
  size : Size α
  fill : String

/-- The ticks with an observation, each with its state. -/
def observedTicks (column : List Snapshot) : List (Nat × Nat) :=
  column.zipIdx.filterMap fun (snapshot, tick) =>
    if snapshot.significant then some (tick, snapshot.state) else none

/-- The slices of time between observations: first tick, last tick and state. -/
def slices (column : List Snapshot) : List (Nat × Nat × Nat) :=
  let observed := observedTicks column
  let ends := (observed.drop 1).map Prod.fst ++ [column.length - 1]
  (observed.zip ends).map fun ((tick, state), next) => (tick, next, state)

variable {α : Type} [Scalar α]

/-- The colour areas of a lifeline in a box with a given top and height. -/
def shades (grid : Grid α) (top height : α) (column : List Snapshot) : List (Shade α) :=
  (slices column).filterMap fun (fromTick, toTick, state) =>
    if fromTick < toTick then
      some {
        fromTick, toTick, state
        origin := ⟨grid.x fromTick, top⟩
        size := ⟨grid.x toTick - grid.x fromTick, height⟩
        fill := fillOf state }
    else none

/-- The lines at the observations of a lifeline, from the top of its box to the bottom. -/
def separators (grid : Grid α) (top bottom : α) (column : List Snapshot) : List (Segment α) :=
  (observedTicks column).map fun (tick, _) => ⟨⟨grid.x tick, top⟩, ⟨grid.x tick, bottom⟩⟩

end Chronogram
