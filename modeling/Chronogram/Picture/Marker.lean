import Chronogram.Picture.Surroundings

/-!
Markers at the points of lines.

A marker is a small picture that is drawn where a line starts, at the points on its way, or where it
ends. It can be turned to the direction of the line, at a corner halfway between both sides, and it
grows with the width of the line.
-/

namespace Chronogram.Picture

open Xml

/-- A part of an outline, with the ways on which it leaves its start and reaches its end; a move has
neither. -/
structure Stretch where
  stop : Point Float32
  leaving : Option (Point Float32)
  arriving : Option (Point Float32)
  isCurved : Bool
  isClosing : Bool

def wayTo (start stop : Point Float32) : Point Float32 :=
  ⟨stop.x - start.x, stop.y - start.y⟩

def isAt (point other : Point Float32) : Bool :=
  point.x == other.x && point.y == other.y

/-- A curve with two points that lead it. Where one of them is the end next to it, the curve runs
straight between its ends there. -/
def curvedStretch (start lead trail stop : Point Float32) : Stretch where
  stop
  leaving := some (if isAt lead start then wayTo start stop else wayTo start lead)
  arriving := some (if isAt trail stop then wayTo start stop else wayTo trail stop)
  isCurved := true
  isClosing := false

def twoThirds (point lead : Point Float32) : Point Float32 :=
  ⟨(point.x + lead.x * 2) / 3, (point.y + lead.y * 2) / 3⟩

/-- The parts of an outline, for the point that is reached and the one that closing leads to. -/
def stretchesFrom (start first : Point Float32) : Outline → List Stretch
  | [] => []
  | .move stop :: rest => ⟨stop, none, none, false, false⟩ :: stretchesFrom stop stop rest
  | .line stop :: rest =>
      let way := some (wayTo start stop)
      ⟨stop, way, way, false, false⟩ :: stretchesFrom stop first rest
  | .quadratic lead stop :: rest =>
      curvedStretch start (twoThirds start lead) (twoThirds stop lead) stop ::
        stretchesFrom stop first rest
  | .cubic lead trail stop :: rest =>
      curvedStretch start lead trail stop :: stretchesFrom stop first rest
  | .close :: rest =>
      let way := some (wayTo start first)
      ⟨first, way, way, false, true⟩ :: stretchesFrom first first rest

/-- The length of half a circle of radius one, in single precision. -/
def halfTurn : Float32 := 3.14159265358979323846

def withinTurn (angle : Float32) : Float32 :=
  let turn := halfTurn * 2
  let rest := angle - turn * (angle / turn).toInt64.toFloat32
  if rest < 0 then rest + turn else rest

def angleOf (way : Point Float32) : Float32 :=
  let angle := Float32.atan2 way.y way.x
  if angle.isNaN then 0 else withinTurn angle

/-- The angle halfway between two ways, in degrees. -/
def middleAngle (arriving leaving : Point Float32) : Float32 :=
  let first := angleOf arriving
  let half := (angleOf leaving - first) * 0.5
  let angle := first + half
  let angle := if halfTurn / 2 < half.abs then angle - halfTurn else angle
  withinTurn angle * 57.2957795130823208767981548141051703

/-- A point of a line where a marker can be drawn, with the direction of the line in degrees. -/
structure Joint where
  place : Point Float32
  angle : Float32

/-- The direction between two ways of which one may be missing. -/
def Joint.between (place : Point Float32) (arriving leaving : Option (Point Float32)) : Joint where
  place
  angle := match arriving, leaving with
    | some arriving, some leaving => middleAngle arriving leaving
    | some way, none => middleAngle way way
    | none, some way => middleAngle way way
    | none, none => 0

def startJoint? : List Stretch → Option Joint
  | first :: second :: _ =>
      some (.between first.stop none (if second.isClosing then none else second.leaving))
  | _ => none

/-- The points on the way of a line. What leads to a move turns nothing. -/
def middleJoints : List Stretch → List Joint
  | first :: second :: rest =>
      (if first.isClosing then [] else [.between first.stop first.arriving second.leaving]) ++
        middleJoints (second :: rest)
  | _ => []

/-- Where a line ends. A line that closes a curve has no direction. -/
def endJoint? (stretches : List Stretch) : Option Joint :=
  match stretches.reverse with
  | last :: before :: _ =>
      if last.arriving.isNone then none
      else if last.isClosing && (before.isCurved || before.arriving.isNone) then
        some ⟨last.stop, 0⟩
      else some (.between last.stop last.arriving none)
  | _ => none

inductive MarkerTurn where
  | fixed (degrees : Float32)
  | along
  /-- As the line runs, but the other way round where it starts. -/
  | outward

def angleUnits : List (String × Float) :=
  [("deg", 1), ("grad", 180 / 200), ("rad", 180 / 3.14159265358979323846), ("turn", 360), ("", 1)]

/-- How a marker is turned; not at all where it cannot be read. -/
def markerTurn (head : Head) : MarkerTurn :=
  match attribute? head "orient" with
  | none => .fixed 0
  | some text =>
      if text = "auto".toList then .along
      else if text = "auto-start-reverse".toList then .outward
      else
        let degrees? : Option Float32 := do
          let (number, rest) ← number? text
          let unit ← angleUnits.lookup (String.ofList rest)
          some (number * unit).toFloat32
        .fixed (degrees?.getD 0)

/-- The width of lines in the styles around a line, the innermost first; it must be positive. -/
def strokeWidth? (scale : Scale) (styles : List Style) : Option Float32 :=
  let found := styles.findSome? (·.value? .strokeWidth)
  some (scale.around ((found.bind Length.read?).getD ⟨1, .pixel⟩)) |>.filter isPositive

structure Marker where
  site : Site
  turn : MarkerTurn
  /-- The point of the marker that lies on the line. -/
  x : Float32
  y : Float32
  scaleX : Float32
  scaleY : Float32

/-- The marker that an element gives, for the width of the line. It must have extent. -/
def Marker.of? (library : Library) (around : Surroundings) (strokeWidth : Option Float32)
    (site : Site) : Option Marker := do
  let factor ← if attribute? site.head "markerUnits" = some "userSpaceOnUse".toList then some 1
    else strokeWidth
  let scale := around.scaleOf library site
  let side (name : String) : Length := (length? site.head name).getD ⟨3, .pixel⟩
  let place (name : String) : Length := (length? site.head name).getD .zero
  let x := scale.across (place "refX")
  let y := scale.down (place "refY")
  let width ← distance? x (scale.across (side "markerWidth"))
  let height ← distance? y (scale.down (side "markerHeight"))
  let (scaleX, scaleY) := match view? site.head with
    | none => (factor, factor)
    | some view =>
        let map := (fittingOf site.head).map view (width * factor) (height * factor)
        (map.a, map.d)
  some ⟨site, markerTurn site.head, x, y, scaleX, scaleY⟩

/-- Where a marker lies that is drawn at a joint, at the start of a line or elsewhere. -/
def Marker.map (marker : Marker) (isStart : Bool) (joint : Joint) : Affine Float32 :=
  let degrees := match marker.turn with
    | .fixed degrees => degrees
    | .along => joint.angle
    | .outward =>
        if isStart then
          let turned := joint.angle + 180
          if turned < 360 then turned else turned - 360
        else joint.angle
  let angle := degrees * (halfTurn / 180)
  let turn : Affine Float32 :=
    if isNearlyZero degrees then .still
    else ⟨angle.cos, angle.sin, -angle.sin, angle.cos, 0, 0⟩
  ((((Affine.displacement joint.place.x joint.place.y).compose turn).compose
    ⟨marker.scaleX, 0, 0, marker.scaleY, 0, 0⟩).compose
      (Affine.displacement (-marker.x) (-marker.y)))

def ShapeKind.hasMarkers : ShapeKind → Bool
  | .line => true
  | .path => true
  | .polyline => true
  | .polygon => true
  | _ => false

/-- The markers on a line and where they lie, for the styles of the line and around it. No marker is
drawn on itself, and none on a line that is hidden. -/
def markersOn (library : Library) (around : Surroundings) (outline : Outline) :
    List (Marker × Affine Float32) :=
  let visibility := around.styles.findSome? (·.value? .visibility)
  if visibility = some "hidden".toList || visibility = some "collapse".toList then []
  else
    let found? (name : PropertyName) : Option Marker := do
      let site ← (around.styles.findSome? (·.value? name)).bind library.links.resource?
      if Kind.of? site.head.name = some .marker && !around.markers.contains site.head.index then
        Marker.of? library around (strokeWidth? around.scale around.styles) site
      else none
    let stretches := stretchesFrom ⟨0, 0⟩ ⟨0, 0⟩ outline
    let drawn (name : PropertyName) (isStart : Bool) (joints : List Joint) :
        List (Marker × Affine Float32) :=
      match found? name with
      | some marker => joints.map fun joint => (marker, marker.map isStart joint)
      | none => []
    drawn .markerStart true (startJoint? stretches).toList ++
      drawn .markerMid false (middleJoints stretches.tail) ++
      drawn .markerEnd false (endJoint? stretches).toList

end Chronogram.Picture
