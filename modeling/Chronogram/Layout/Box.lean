import Chronogram.Layout.Fault
import Chronogram.Layout.Shading
import Chronogram.Layout.Track

/-!
The box of one lifeline.

The name stands on the left, the labels of the states in front of the first tick, and the track
inside the box. The height depends on the style and on the number of states only, so boxes can be
stacked before anything else is known.
-/

namespace Chronogram

/-- The label of a state and the piece of axis in front of its row. -/
structure StateRow (α : Type) where
  index : Nat
  label : String
  y : α
  axis : Segment α
  labelPosition : Point α

structure LifelineBox (α : Type) where
  name : String
  style : LifelineStyle
  top : α
  height : α
  outline : List (Point α)
  labelPosition : Point α
  stateRows : List (StateRow α)
  tickMarks : List (Segment α)
  track : Track α
  shades : List (Shade α)
  separators : List (Segment α)
  /-- The points that arrows can attach to, one list per tick. -/
  attachments : List (List (Point α))

namespace LifelineBox

variable {α : Type} [Scalar α]

def bottom (box : LifelineBox α) : α :=
  box.top + box.height

def rowHeight : Int := 40

/-- The room above the uppermost state row. -/
def upperMargin : Int := 50

/-- The room below the lowest state row. -/
def lowerMargin : Int := 20

def simplifiedHeight : Int := 80

/-- How far a box reaches beyond the first and the last tick. -/
def sidePad : Int := 10

def axisLength : Int := 20

def stateLabelGap : Int := 25

/-- How far the base line of a state label lies below its row. -/
def stateLabelDrop : Int := 5

def markAbove : Int := 5

def markBelow : Int := 10

/-- The height of the box of a lifeline. A lifeline without states has one row all the same. -/
def heightOf (lifeline : Lifeline) : α :=
  match lifeline.style with
  | .simplified => px simplifiedHeight
  | .normal | .slice =>
      px (max lifeline.states.size 1 - 1 : Nat) * px rowHeight + px upperMargin + px lowerMargin

def hasRow (states : Catalog) (state : Nat) : Bool :=
  (states.get? state).isSome || (states.isEmpty && state == 0)

/-- The first tick at which a lifeline is in a state without a row, with that state. -/
def missingState? (states : Catalog) (column : List Snapshot) : Option (Nat × Nat) :=
  column.zipIdx.findSome? fun (snapshot, tick) =>
    if hasRow states snapshot.state then none else some (tick, snapshot.state)

/-- The height on the page of the row of a state. -/
def rowY (bottom : α) (state : Nat) : α :=
  bottom - px lowerMargin - px state * px rowHeight

def busCentre (bottom : α) : α :=
  bottom - px lowerMargin - px Bus.halfHeight

def stateRowsOf (grid : Grid α) (bottom : α) (states : Catalog) : List (StateRow α) :=
  states.labels.map fun (index, label) =>
    let y := rowY bottom index
    { index, label, y
      axis := ⟨⟨grid.base - px axisLength, y⟩, ⟨grid.base, y⟩⟩
      labelPosition := ⟨grid.base - px stateLabelGap, y + px stateLabelDrop⟩ }

def tickMarksOf (grid : Grid α) (bottom : α) : List (Segment α) :=
  (List.range grid.tickCount).map fun tick =>
    ⟨⟨grid.x tick, bottom - px markAbove⟩, ⟨grid.x tick, bottom + px markBelow⟩⟩

/-- The frame of a box, from its lower left corner around and back. -/
def outlineOf (grid : Grid α) (top bottom : α) : List (Point α) :=
  let left := grid.base - px sidePad
  let right := grid.lastX + px sidePad
  [⟨left, bottom⟩, ⟨left, top⟩, ⟨right, top⟩, ⟨right, bottom⟩, ⟨left, bottom⟩]

def frame (lifeline : Lifeline) (grid : Grid α) (top labelX : α) : LifelineBox α :=
  let height := heightOf lifeline
  let bottom := top + height
  { name := lifeline.name
    style := lifeline.style
    top, height
    outline := outlineOf grid top bottom
    labelPosition := ⟨labelX, top + height / px 2⟩
    stateRows := []
    tickMarks := tickMarksOf grid bottom
    track := .staircase []
    shades := []
    separators := []
    attachments := [] }

def withBus (box : LifelineBox α) (grid : Grid α) (column : List Snapshot) : LifelineBox α :=
  let stations := Bus.stations grid (busCentre box.bottom) (column.map Snapshot.state)
  { box with
    track := Bus.track stations
    attachments := stations.map Bus.Station.attachments }

def withStaircase (box : LifelineBox α) (grid : Grid α) (states : Catalog)
    (column : List Snapshot) : LifelineBox α :=
  let corners := Staircase.corners grid (rowY box.bottom) (column.map Snapshot.state)
  { box with
    stateRows := stateRowsOf grid box.bottom states
    track := .staircase corners.flatten
    attachments := corners }

def withShading (box : LifelineBox α) (grid : Grid α) (column : List Snapshot) : LifelineBox α :=
  { box with
    shades := Chronogram.shades grid box.top box.height column
    separators := Chronogram.separators grid box.top box.bottom column }

/-- Lay out the box of a lifeline. Only the simplified style can do without rows for its states. -/
def layout (lifeline : Lifeline) (column : List Snapshot) (grid : Grid α) (top labelX : α) :
    Except LayoutFault (LifelineBox α) :=
  let box := frame lifeline grid top labelX
  match lifeline.style with
  | .simplified => .ok (box.withBus grid column)
  | .normal | .slice =>
      match missingState? lifeline.states column with
      | some (tick, state) => .error (.unknownState lifeline.name tick state)
      | none =>
          let box := box.withStaircase grid lifeline.states column
          .ok (if lifeline.style = .slice then box.withShading grid column else box)

end LifelineBox

end Chronogram
