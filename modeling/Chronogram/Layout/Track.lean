import Chronogram.Layout.Grid

/-!
Tracks: how the states of a lifeline are drawn over time.

A staircase runs along one row per state and steps at the tick where the state changes. A bus is a
pair of rails that run in parallel and meet in one point at such a tick. Both offer the points that
arrows can attach to, one list per tick.
-/

namespace Chronogram

/-- The lines that show the states of a lifeline. -/
inductive Track (α : Type) where
  | staircase (points : List (Point α))
  | bus (upper lower band : List (Point α))

def withPrevious (states : List Nat) : List (Option Nat × Nat) :=
  (none :: states.map some).zip states

def isChange (previous : Option Nat) (state : Nat) : Bool :=
  match previous with
  | some before => before != state
  | none => false

variable {α : Type} [Scalar α]

namespace Staircase

/-- The points of a tick: the row of its state, and in front of it the row of the state before if
that is another one. -/
def cornersAt (grid : Grid α) (rowY : Nat → α) (tick : Nat) (previous : Option Nat) (state : Nat) :
    List (Point α) :=
  match previous with
  | some before =>
      if before = state then [⟨grid.x tick, rowY state⟩]
      else [⟨grid.x tick, rowY before⟩, ⟨grid.x tick, rowY state⟩]
  | none => [⟨grid.x tick, rowY state⟩]

def corners (grid : Grid α) (rowY : Nat → α) (states : List Nat) : List (List (Point α)) :=
  (withPrevious states).zipIdx.map fun ((previous, state), tick) =>
    cornersAt grid rowY tick previous state

end Staircase

namespace Bus

/-- The distance of a rail from the centre line. -/
def halfHeight : Int := 8

/-- What a bus has at one tick. -/
structure Station (α : Type) where
  upper : List (Point α)
  lower : List (Point α)
  attachments : List (Point α)

/-- How far from a change the rails leave their full distance. -/
def run (grid : Grid α) : α :=
  Scalar.min (px halfHeight) (grid.tickWidth / px 2)

def straightAt (grid : Grid α) (centre : α) (tick : Nat) : Station α :=
  let top : Point α := ⟨grid.x tick, centre - px halfHeight⟩
  let bottom : Point α := ⟨grid.x tick, centre + px halfHeight⟩
  ⟨[top], [bottom], [top, bottom]⟩

/-- A tick with a change: the rails close in front of it, meet on it and open behind it. -/
def crossingAt (grid : Grid α) (centre : α) (tick : Nat) : Station α :=
  let x := grid.x tick
  let run := run grid
  let middle : Point α := ⟨x, centre⟩
  let rail (y : α) : List (Point α) := [⟨x - run, y⟩, middle, ⟨x + run, y⟩]
  ⟨rail (centre - px halfHeight), rail (centre + px halfHeight), [middle]⟩

def stations (grid : Grid α) (centre : α) (states : List Nat) : List (Station α) :=
  (withPrevious states).zipIdx.map fun ((previous, state), tick) =>
    if isChange previous state then crossingAt grid centre tick else straightAt grid centre tick

/-- The rails through some stations, and the band between them. -/
def track (stations : List (Station α)) : Track α :=
  let upper := stations.flatMap Station.upper
  let lower := stations.flatMap Station.lower
  .bus upper lower (upper ++ lower.reverse)

end Bus

end Chronogram
