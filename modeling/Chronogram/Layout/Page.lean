import Chronogram.Layout.Connection
import Chronogram.Layout.Legend
import Chronogram.Measure

/-!
The layout of a whole diagram, in pixels before scaling.

Boxes are stacked from top to bottom in the order of declaration. The grid starts far enough to the
right for the longest name and the longest state label side by side. Below the last box stands the
legend, above the first one the title.
-/

namespace Chronogram

/-- The title and the size of the frame around it. -/
structure TitleLayout (α : Type) where
  text : String
  position : Point α
  frame : Size α

/-- A laid out diagram. -/
structure Page (α : Type) where
  width : α
  height : α
  scale : α
  gridBase : α
  tickWidth : α
  tickCount : Nat
  title : TitleLayout α
  lifelines : List (LifelineBox α)
  spans : List (SpanLayout α)
  arrows : List (ArrowLayout α)
  legend : Legend α

namespace Page

variable {α : Type} [Scalar α]

def lifeline? (page : Page α) (name : String) : Option (LifelineBox α) :=
  page.lifelines.find? fun box => box.name = name

def leftPad : Int := 20

/-- The room between the state labels and the first tick. -/
def axisGap : Int := 40

def rightPad : Int := 30

def firstTop : Int := 70

def boxGap : Int := 45

/-- How far the legend stands above the lower edge of the page. -/
def legendRaise : Int := 20

def titlePosition : Point α := ⟨px 10, px 28⟩

def titleHeight : Int := 45

def titlePad : Int := 30

/-- How far the page reaches beyond the frame of the title at least. -/
def titleMargin : Int := 10

/-- The greatest of some widths; zero if there are none. -/
def greatest (widths : List α) : α :=
  widths.foldl Scalar.max (px 0)

def longestName (measurer : Measurer α) (timeline : Timeline) : α :=
  greatest (timeline.lifelines.keys.map (measurer.width .lifelineLabel))

def rowLabels (timeline : Timeline) : List String :=
  (timeline.lifelines.values.filter fun lifeline => lifeline.style ≠ .simplified).flatMap
    fun lifeline => lifeline.states.labels.map Prod.snd

def longestLabel (measurer : Measurer α) (timeline : Timeline) : α :=
  greatest ((rowLabels timeline).map (measurer.width .stateLabel))

def gridOf (measurer : Measurer α) (timeline : Timeline) : Grid α where
  base := px leftPad + longestName measurer timeline + longestLabel measurer timeline + px axisGap
  tickWidth := Scalar.ofFloat timeline.config.tickWidth
  tickCount := timeline.tickCount

/-- Stack the boxes of lifelines from a top downwards; the answer also tells where the next box
would start. -/
def stack (timeline : Timeline) (grid : Grid α) :
    α → List Lifeline → Except LayoutFault (List (LifelineBox α) × α)
  | top, [] => .ok ([], top)
  | top, lifeline :: rest => do
      let column := timeline.column lifeline.name
      let box ← LifelineBox.layout lifeline column grid top (px leftPad)
      let (boxes, next) ← stack timeline grid (box.bottom + px boxGap) rest
      .ok (box :: boxes, next)

def titleOf (measurer : Measurer α) (timeline : Timeline) : TitleLayout α where
  text := timeline.title
  position := titlePosition
  frame := ⟨measurer.width .title timeline.title + px titlePad, px titleHeight⟩

/-- Lay out a diagram. Lifelines are checked first, then spans, then arrows. -/
def layout (measurer : Measurer α) (timeline : Timeline) : Except LayoutFault (Page α) := do
  let grid := gridOf measurer timeline
  let (boxes, height) ← stack timeline grid (px firstTop) timeline.lifelines.values
  let spans ← timeline.spans.mapM (SpanLayout.layout boxes grid)
  let arrows ← timeline.arrows.mapM (ArrowLayout.layout boxes grid.tickCount)
  let title := titleOf measurer timeline
  .ok {
    width := Scalar.max (grid.lastX + px rightPad) (title.frame.width + px titleMargin)
    height
    scale := Scalar.ofFloat timeline.config.scale
    gridBase := grid.base
    tickWidth := grid.tickWidth
    tickCount := grid.tickCount
    title
    lifelines := boxes
    spans, arrows
    legend := Legend.layout timeline grid (height - px legendRaise) }

end Page

end Chronogram
