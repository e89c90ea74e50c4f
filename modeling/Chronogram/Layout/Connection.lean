import Chronogram.Layout.Box

/-!
Spans and arrows.

Both refer to lifelines by name and to ticks by number; an arrow moreover refers to one of the
points that a lifeline offers at a tick. References are resolved against the boxes, the lifeline
before the tick and the tick before the point.
-/

namespace Chronogram

/-- The side of a text on which its position lies. -/
inductive TextAnchor where
  | start
  | middle
  | finish
  deriving Repr, DecidableEq

def TextAnchor.name : TextAnchor → String
  | .start => "start"
  | .middle => "middle"
  | .finish => "end"

/-- A span on the page: a line with arrow heads, a cap at each end, and a label. -/
structure SpanLayout (α : Type) where
  lifeline : String
  start : Point α
  finish : Point α
  caps : List (Segment α)
  label : String
  labelPosition : Point α

structure LabelLayout (α : Type) where
  text : String
  position : Point α
  anchor : TextAnchor

structure ArrowLayout (α : Type) where
  start : Point α
  finish : Point α
  style : ArrowStyle
  label : Option (LabelLayout α)

variable {α : Type} [Scalar α]

namespace LifelineBox

def lastNamed? (boxes : List (LifelineBox α)) (name : String) : Option (LifelineBox α) :=
  boxes.reverse.find? fun box => box.name = name

/-- The box of a lifeline, if the diagram reaches the tick. -/
def resolve (boxes : List (LifelineBox α)) (tickCount : Nat) (referrer : Referrer) (name : String)
    (tick : Nat) : Except LayoutFault (LifelineBox α) :=
  match lastNamed? boxes name with
  | none => .error (.unknownLifeline referrer name)
  | some box =>
      if tick < tickCount then .ok box
      else .error (.tickOutOfRange referrer name tick tickCount)

def attachment (boxes : List (LifelineBox α)) (tickCount : Nat) (arrowEnd : ArrowEnd) :
    Except LayoutFault (Point α) :=
  match resolve boxes tickCount .arrow arrowEnd.lifeline arrowEnd.tick with
  | .error fault => .error fault
  | .ok box =>
      let candidates := (box.attachments[arrowEnd.tick]?).getD []
      match candidates[arrowEnd.slot]? with
      | some point => .ok point
      | none =>
          .error (.attachmentOutOfRange arrowEnd.lifeline arrowEnd.tick arrowEnd.slot
            candidates.length)

end LifelineBox

namespace SpanLayout

def drop : Int := 35

def capHeight : Int := 7

def labelRaise : Int := 10

def capAt (p : Point α) : Segment α :=
  ⟨⟨p.x, p.y - px capHeight⟩, ⟨p.x, p.y + px capHeight⟩⟩

def place (grid : Grid α) (top : α) (span : Span) : SpanLayout α :=
  let y := top + px drop
  let start : Point α := ⟨grid.x span.originTick, y⟩
  let finish : Point α := ⟨grid.x span.destTick, y⟩
  { lifeline := span.lifeline
    start, finish
    caps := [capAt start, capAt finish]
    label := span.label
    labelPosition := ⟨(start.x + finish.x) / px 2, y - px labelRaise⟩ }

def layout (boxes : List (LifelineBox α)) (grid : Grid α) (span : Span) :
    Except LayoutFault (SpanLayout α) := do
  let box ← LifelineBox.resolve boxes grid.tickCount .span span.lifeline span.originTick
  let _ ← LifelineBox.resolve boxes grid.tickCount .span span.lifeline span.destTick
  .ok (place grid box.top span)

end SpanLayout

namespace ArrowLayout

def labelDistance : Int := 10

def placeLabel (start finish : Point α) (position : Int) (side : LabelSide) (text : String) :
    LabelLayout α :=
  let along := start.towards finish (px position / px 100)
  let normal := (sideNormal start finish).scale (px labelDistance)
  match side with
  | .right => ⟨text, along.add normal, .start⟩
  | .left => ⟨text, along.sub normal, .finish⟩

def layout (boxes : List (LifelineBox α)) (tickCount : Nat) (arrow : Arrow) :
    Except LayoutFault (ArrowLayout α) := do
  let start ← LifelineBox.attachment boxes tickCount arrow.origin
  let finish ← LifelineBox.attachment boxes tickCount arrow.dest
  .ok {
    start, finish
    style := arrow.style
    label := arrow.label.map (placeLabel start finish arrow.labelPosition arrow.labelSide) }

end ArrowLayout

end Chronogram
