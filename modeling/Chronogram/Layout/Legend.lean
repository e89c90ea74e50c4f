import Chronogram.Layout.Grid
import Chronogram.Timeline

/-!
The legend: numbers of ticks below all boxes.

It names every so many ticks, or the ticks at which the first lifeline has an observation.
-/

namespace Chronogram

structure LegendEntry (α : Type) where
  tick : Nat
  position : Point α

structure Legend (α : Type) where
  y : α
  entries : List (LegendEntry α)

namespace Timeline

def firstColumn (timeline : Timeline) : List Snapshot :=
  match timeline.lifelines.keys with
  | [] => []
  | name :: _ => timeline.column name

def legendTicks (timeline : Timeline) : List Nat :=
  match timeline.config.legendMode with
  | .byFrequency =>
      (List.range timeline.tickCount).filter fun tick =>
        tick % max timeline.config.legendFrequency 1 == 0
  | .onlySignificant =>
      (timeline.firstColumn.zipIdx.filter fun (snapshot, _) => snapshot.significant).map Prod.snd

end Timeline

def Legend.layout {α : Type} [Scalar α] (timeline : Timeline) (grid : Grid α) (y : α) : Legend α :=
  ⟨y, timeline.legendTicks.map fun tick => ⟨tick, ⟨grid.x tick, y⟩⟩⟩

end Chronogram
