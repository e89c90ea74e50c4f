import Chronogram.Picture.Length
import Chronogram.Picture.Plane

/-!
Outlines and the boxes around them.

An outline is a row of lines and curves in single precision. The box around it is tight: a curve
counts with its ends and with the points where it turns back along an axis.
-/

namespace Chronogram.Picture

/-- A part of an outline, with the points behind its start. -/
inductive Segment where
  | move (stop : Point Float32)
  | line (stop : Point Float32)
  | quadratic (lead stop : Point Float32)
  | cubic (lead trail stop : Point Float32)
  | close
  deriving Repr

def Segment.points : Segment → List (Point Float32)
  | .move stop => [stop]
  | .line stop => [stop]
  | .quadratic lead stop => [lead, stop]
  | .cubic lead trail stop => [lead, trail, stop]
  | .close => []

def Segment.map (map : Affine Float32) : Segment → Segment
  | .move stop => .move (map.apply stop)
  | .line stop => .line (map.apply stop)
  | .quadratic lead stop => .quadratic (map.apply lead) (map.apply stop)
  | .cubic lead trail stop => .cubic (map.apply lead) (map.apply trail) (map.apply stop)
  | .close => .close

/-- A row of lines and curves. -/
abbrev Outline := List Segment

/-- Drop moves that other moves follow. -/
def withoutIdleMoves : Outline → Outline
  | .move _ :: .move stop :: rest => withoutIdleMoves (.move stop :: rest)
  | segment :: rest => segment :: withoutIdleMoves rest
  | [] => []

structure Box where
  left : Float32
  top : Float32
  right : Float32
  bottom : Float32
  deriving Repr

namespace Box

def ofPoint (point : Point Float32) : Box := ⟨point.x, point.y, point.x, point.y⟩

def union (one other : Box) : Box where
  left := if other.left < one.left then other.left else one.left
  top := if other.top < one.top then other.top else one.top
  right := if one.right < other.right then other.right else one.right
  bottom := if one.bottom < other.bottom then other.bottom else one.bottom

def extend (box : Box) (point : Point Float32) : Box :=
  box.union (ofPoint point)

/-- Whether the length of a side can be written in single precision. -/
def isMeasurable (low high : Float32) : Bool :=
  low.isFinite && high.isFinite && (high.toFloat - low.toFloat).toFloat32.isFinite

def measured? (box : Box) : Option Box :=
  if isMeasurable box.left box.right && isMeasurable box.top box.bottom then some box else none

/-- The box around the places of the corners. -/
def map? (map : Affine Float32) (box : Box) : Option Box :=
  let corner (x y : Float32) : Point Float32 := map.apply ⟨x, y⟩
  let turned := [corner box.right box.top, corner box.right box.bottom,
    corner box.left box.bottom].foldl Box.extend (ofPoint (corner box.left box.top))
  if map.isStill then some box else turned.measured?

end Box

/-- The quotient of two numbers, if it lies between zero and one. -/
def unitQuotient? (numerator denominator : Float32) : Option Float32 :=
  let (numerator, denominator) :=
    if numerator < 0 then (-numerator, -denominator) else (numerator, denominator)
  if denominator == 0 || numerator == 0 || denominator ≤ numerator then none
  else
    let quotient := numerator / denominator
    if 0 < quotient && quotient < 1 then some quotient else none

/-- The zeros of `a * t ^ 2 + b * t + c` between zero and one. -/
def unitRoots (a b c : Float32) : List Float32 :=
  if a == 0 then (unitQuotient? (-c) b).toList
  else
    let discriminant := b.toFloat * b.toFloat - 4 * a.toFloat * c.toFloat
    if discriminant < 0 then []
    else
      let root := discriminant.sqrt.toFloat32
      if root.isFinite then
        let q := if b < 0 then -(b - root) / 2 else -(b + root) / 2
        (unitQuotient? q a).toList ++ (unitQuotient? c q).toList
      else []

/-- The place of a quadratic curve at a time, on one axis. -/
def quadraticAt (start lead stop time : Float32) : Float32 :=
  let b := (lead - start) + (lead - start)
  let a := stop - (lead + lead) + start
  (a * time + b) * time + start

/-- The time when a quadratic curve turns back on one axis. -/
def quadraticTurn? (start lead stop : Float32) : Option Float32 :=
  unitQuotient? (start - lead) (start - lead - lead + stop)

/-- The place of a cubic curve at a time, on one axis. -/
def cubicAt (start lead trail stop time : Float32) : Float32 :=
  let a := stop + 3 * (lead - trail) - start
  let b := 3 * (trail - (lead + lead) + start)
  let c := 3 * (lead - start)
  ((a * time + b) * time + c) * time + start

/-- The times when a cubic curve turns back on one axis. -/
def cubicTurns (start lead trail stop : Float32) : List Float32 :=
  unitRoots (stop - start + 3 * (lead - trail)) (2 * (start - lead - lead + trail)) (lead - start)

/-- The points of a part that its box has to hold, for the point where it starts. -/
def Segment.extremes (start : Point Float32) : Segment → List (Point Float32)
  | .move stop => [stop]
  | .line stop => [stop]
  | .quadratic lead stop =>
      let times := (quadraticTurn? start.x lead.x stop.x).toList ++
        (quadraticTurn? start.y lead.y stop.y).toList
      (times.map fun time =>
        ⟨quadraticAt start.x lead.x stop.x time, quadraticAt start.y lead.y stop.y time⟩) ++ [stop]
  | .cubic lead trail stop =>
      let times := cubicTurns start.x lead.x trail.x stop.x ++
        cubicTurns start.y lead.y trail.y stop.y
      (times.map fun time =>
        ⟨cubicAt start.x lead.x trail.x stop.x time, cubicAt start.y lead.y trail.y stop.y time⟩) ++
        [stop]
  | .close => []

/-- The box around the rest of an outline and a box, for the point where the rest starts and the one
that closing leads to. -/
def boxFrom (box : Box) (start first : Point Float32) : Outline → Box
  | [] => box
  | segment :: rest =>
      let box := (segment.extremes start).foldl Box.extend box
      match segment with
      | .move stop => boxFrom box stop stop rest
      | .line stop => boxFrom box stop first rest
      | .quadratic _ stop => boxFrom box stop first rest
      | .cubic _ _ stop => boxFrom box stop first rest
      | .close => boxFrom box first first rest

/-- The box around an outline with at least two parts, of which the first is a move. All its points
must be finite. -/
def Outline.box? (outline : Outline) : Option Box :=
  match outline with
  | .move start :: rest@(_ :: _) =>
      if (outline.flatMap Segment.points).all fun point => point.x.isFinite && point.y.isFinite then
        (boxFrom (.ofPoint start) start start rest).measured?
      else none
  | _ => none

/-- The box around the place of an outline. Only a map that turns or slants moves the outline
itself; any other moves its box. -/
def Outline.boxUnder? (outline : Outline) (map : Affine Float32) : Option Box := do
  let box ← outline.box?
  if map.isSlanted then Outline.box? (outline.map (Segment.map map)) else box.map? map

end Chronogram.Picture
