import Chronogram.Picture.Plane

/-!
Elliptic arcs as curves.

An arc leads from one point to another on an ellipse with given radii, which is turned by an angle.
Of the four arcs that do, two flags choose one. Radii that are too short are stretched. The arc is
cut into equal parts, each of which is replaced by a cubic curve that stays within a tenth of a
pixel.
-/

namespace Chronogram.Picture

/-- The length of half a circle of radius one. -/
def pi : Float := 3.14159265358979323846

/-- An elliptic arc between two points. -/
structure EndpointArc where
  start : Point Float
  stop : Point Float
  radiusX : Float
  radiusY : Float
  /-- The angle by which the ellipse is turned, in radians. -/
  rotation : Float
  /-- Whether the arc is longer than half of the ellipse. -/
  isLarge : Bool
  /-- Whether the angle grows along the arc. -/
  isClockwise : Bool

structure CenterArc where
  center : Point Float
  radiusX : Float
  radiusY : Float
  rotation : Float
  startAngle : Float
  /-- The angle from the start to the end. -/
  sweep : Float

/-- The part of an angle that whole turns leave, with the sign of the angle. -/
def remainderOfTurns (angle : Float) : Float :=
  let turn := 2 * pi
  if angle.abs < turn then angle
  else
    let left := angle.abs - turn * (angle.abs / turn).floor
    if angle < 0 then -left else left

/-- The arc by its center, unless it is straight. -/
def EndpointArc.toCenter? (arc : EndpointArc) : Option CenterArc :=
  let rx := arc.radiusX.abs
  let ry := arc.radiusY.abs
  if rx ≤ 0.00001 || ry ≤ 0.00001 || (arc.start.x == arc.stop.x && arc.start.y == arc.stop.y) then
    none
  else
    let turned := remainderOfTurns arc.rotation
    let sin := turned.sin
    let cos := turned.cos
    let halfX := (arc.start.x - arc.stop.x) * 0.5
    let halfY := (arc.start.y - arc.stop.y) * 0.5
    let middleX := (arc.start.x + arc.stop.x) * 0.5
    let middleY := (arc.start.y + arc.stop.y) * 0.5
    let px := cos * halfX + sin * halfY
    let py := -sin * halfX + cos * halfY
    let stretch := px * px / (rx * rx) + py * py / (ry * ry)
    let (rx, ry) := if 1 < stretch then (rx * stretch.sqrt, ry * stretch.sqrt) else (rx, ry)
    let product := rx * ry
    let crossY := rx * py
    let crossX := ry * px
    let squares := crossY * crossY + crossX * crossX
    let sign : Float := if arc.isLarge = arc.isClockwise then -1 else 1
    let factor := sign * ((product * product - squares) / squares).abs.sqrt
    let cx := factor * crossY / ry
    let cy := -factor * crossX / rx
    let startAngle := Float.atan2 ((py - cy) / ry) ((px - cx) / rx)
    let stopAngle := Float.atan2 ((-py - cy) / ry) ((-px - cx) / rx)
    let sweep := remainderOfTurns (stopAngle - startAngle)
    let sweep :=
      if arc.isClockwise && sweep < 0 then sweep + 2 * pi
      else if !arc.isClockwise && 0 < sweep then sweep - 2 * pi
      else sweep
    some
      { center := ⟨cos * cx - sin * cy + middleX, sin * cx + cos * cy + middleY⟩
        radiusX := rx
        radiusY := ry
        rotation := arc.rotation
        startAngle
        sweep }

namespace CenterArc

/-- The step from the center to the point of the ellipse at an angle. -/
def radius (arc : CenterArc) (angle : Float) : Point Float :=
  let u := arc.radiusX * angle.cos
  let v := arc.radiusY * angle.sin
  let sin := arc.rotation.sin
  let cos := arc.rotation.cos
  ⟨u * cos - v * sin, u * sin + v * cos⟩

def count (arc : CenterArc) : Float :=
  let longest := if arc.radiusX < arc.radiusY then arc.radiusY else arc.radiusX
  let ofEllipse := (1.1163 * (longest / 0.1)).pow (1 / 6)
  let ofEllipse := if ofEllipse < 3.999999 then 3.999999 else ofEllipse
  (ofEllipse * arc.sweep.abs * (1 / (2 * pi))).ceil

/-- The points of a curve behind its first: two that lead it and its end. -/
structure Curve where
  lead : Point Float
  trail : Point Float
  stop : Point Float

/-- The curves for a part of an arc: how many there are, the angle of each, the length of the lines
that lead them, and the angle and the place where the part starts. -/
def curvesFrom (arc : CenterArc) (step lead : Float) :
    Nat → Float → Point Float → List Curve → List Curve
  | 0, _, _, seen => seen.reverse
  | count + 1, angle, start, seen =>
      let next := angle + step
      let stop := arc.radius next
      let ahead := arc.radius (angle + pi / 2)
      let back := arc.radius (next + pi / 2)
      let place (x y : Float) : Point Float := ⟨arc.center.x + x, arc.center.y + y⟩
      let curve : Curve :=
        { lead := place (start.x + lead * ahead.x) (start.y + lead * ahead.y)
          trail := place (stop.x - lead * back.x) (stop.y - lead * back.y)
          stop := place stop.x stop.y }
      curvesFrom arc step lead count next stop (curve :: seen)

def curves (arc : CenterArc) : List Curve :=
  let step := arc.sweep / arc.count
  let sign : Float := if arc.sweep < 0 then -1 else 1
  let lead := (4 / 3) * (0.25 * step).abs.tan * sign
  arc.curvesFrom step lead arc.count.toUInt64.toNat arc.startAngle (arc.radius arc.startAngle) []

end CenterArc

end Chronogram.Picture
