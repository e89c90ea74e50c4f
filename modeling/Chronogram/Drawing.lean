import Chronogram.Layout.Page

/-!
Drawings: a layout flattened into shapes, in the order in which they are painted.

Colour areas come before the lines of their box, so every line stays visible. Nothing is scaled yet.
-/

namespace Chronogram

inductive Shape (α : Type) where
  | line (start finish : Point α) (dashed : Bool)
  | rect (origin : Point α) (size : Size α) (fill : Option String)
  | polygon (points : List (Point α)) (fill : String)
  | polyline (points : List (Point α)) (strokeWidth : α)
  | text (position : Point α) (role : TextClass) (content : String) (anchor : Option TextAnchor)
  | arrow (start finish : Point α) (style : ArrowStyle)
  | doubleArrow (start finish : Point α)

namespace Drawing

variable {α : Type} [Scalar α]

def trackStroke : Int := 2

def busFill : String := "#d9d9d9"

def solidLine (segment : Segment α) : Shape α :=
  .line segment.start segment.finish false

def dashedLine (segment : Segment α) : Shape α :=
  .line segment.start segment.finish true

def shadingShapes (box : LifelineBox α) : List (Shape α) :=
  (box.shades.map fun shade => .rect shade.origin shade.size (some shade.fill)) ++
    box.separators.map dashedLine

def frameShapes (box : LifelineBox α) : List (Shape α) :=
  .polyline box.outline (px 1) ::
    .text box.labelPosition .lifelineLabel box.name none ::
    box.tickMarks.map solidLine

def rowShapes (row : StateRow α) : List (Shape α) :=
  [solidLine row.axis, .text row.labelPosition .stateLabel row.label (some .finish)]

def trackShapes : Track α → List (Shape α)
  | .staircase points => if points.isEmpty then [] else [.polyline points (px trackStroke)]
  | .bus upper lower band =>
      if upper.isEmpty then []
      else [.polygon band busFill, .polyline upper (px trackStroke),
        .polyline lower (px trackStroke)]

def boxShapes (box : LifelineBox α) : List (Shape α) :=
  shadingShapes box ++ frameShapes box ++ box.stateRows.flatMap rowShapes ++ trackShapes box.track

def spanShapes (span : SpanLayout α) : List (Shape α) :=
  .doubleArrow span.start span.finish :: span.caps.map solidLine ++
    [.text span.labelPosition .legend span.label (some .middle)]

def arrowShapes (arrow : ArrowLayout α) : List (Shape α) :=
  .arrow arrow.start arrow.finish arrow.style ::
    match arrow.label with
    | some label => [.text label.position .stateLabel label.text (some label.anchor)]
    | none => []

def legendShape (entry : LegendEntry α) : Shape α :=
  .text entry.position .legend (toString entry.tick) (some .middle)

def titleShape (title : TitleLayout α) : Shape α :=
  .text title.position .title title.text none

def ofPage (page : Page α) : List (Shape α) :=
  titleShape page.title :: page.lifelines.flatMap boxShapes ++ page.spans.flatMap spanShapes ++
    page.arrows.flatMap arrowShapes ++ page.legend.entries.map legendShape

end Drawing

end Chronogram
