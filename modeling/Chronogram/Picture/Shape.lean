import Chronogram.Picture.PathData

/-!
The outlines of shapes.

A shape takes its places and lengths from attributes; one that cannot be read counts as zero. A
shape without extent has no outline.
-/

namespace Chronogram.Picture

open Xml

structure Scale where
  fontSize : Float32
  view : View

def Scale.across (scale : Scale) (length : Length) : Float32 :=
  length.pixels (Thunk.pure scale.fontSize) scale.view.width

def Scale.down (scale : Scale) (length : Length) : Float32 :=
  length.pixels (Thunk.pure scale.fontSize) scale.view.height

def Scale.around (scale : Scale) (length : Length) : Float32 :=
  length.pixels (Thunk.pure scale.fontSize) scale.view.diagonal

/-- A quarter of an ellipse from the place of a pen. -/
def quarter (start stop : Point Float32) (radiusX radiusY : Float32) : Outline :=
  (Pen.arc { Pen.start with place := start.toDouble }
    { start := start.toDouble
      stop := stop.toDouble
      radiusX := radiusX.toFloat
      radiusY := radiusY.toFloat
      rotation := 0
      isLarge := false
      isClockwise := true }).drawn.reverse

/-- The point where a row of parts ends. -/
def endPoint (start : Point Float32) (outline : Outline) : Point Float32 :=
  match outline.getLast? with
  | some (.line stop) => stop
  | some (.cubic _ _ stop) => stop
  | _ => start

/-- Draw quarters of an ellipse, with lines to where they start, if they do not start in the place
that is reached. -/
def quartersFrom (radiusX radiusY : Float32) (start : Point Float32) :
    List (Option (Point Float32) × Point Float32) → Outline
  | [] => []
  | (corner, stop) :: rest =>
      let drawn := quarter (corner.getD start) stop radiusX radiusY
      (corner.map Segment.line).toList ++ drawn ++
        quartersFrom radiusX radiusY (endPoint (corner.getD start) drawn) rest

def ellipseOutline (cx cy radiusX radiusY : Float32) : Outline :=
  let start : Point Float32 := ⟨cx + radiusX, cy⟩
  .move start ::
    (quartersFrom radiusX radiusY start
      [(none, ⟨cx, cy + radiusY⟩), (none, ⟨cx - radiusX, cy⟩), (none, ⟨cx, cy - radiusY⟩),
        (none, ⟨cx + radiusX, cy⟩)] ++ [.close])

/-- The radii of an element. One that is missing or negative equals the other one. -/
def radii (scale : Scale) (head : Head) : Float32 × Float32 :=
  let radius? (name : String) : Option Length :=
    (length? head name).filter fun length => length.number.toBits >>> 63 = 0
  match radius? "rx", radius? "ry" with
  | none, none => (0, 0)
  | some x, none => (scale.across x, scale.across x)
  | none, some y => (scale.down y, scale.down y)
  | some x, some y => (scale.across x, scale.down y)

def isNearlyZero (number : Float32) : Bool :=
  number.toBits &&& 0x7FFFFFFF ≤ 4

/-- The outline of a rectangle whose corners are quarters of an ellipse. -/
def rectangleOutline (x y width height radiusX radiusY : Float32) : Outline :=
  let right := x + width
  let bottom := y + height
  if isNearlyZero radiusX && isNearlyZero radiusY then
    [.move ⟨x, y⟩, .line ⟨right, y⟩, .line ⟨right, bottom⟩, .line ⟨x, bottom⟩, .close]
  else
    .move ⟨x + radiusX, y⟩ ::
      (quartersFrom radiusX radiusY ⟨x + radiusX, y⟩
        [(some ⟨right - radiusX, y⟩, ⟨right, y + radiusY⟩),
          (some ⟨right, bottom - radiusY⟩, ⟨right - radiusX, bottom⟩),
          (some ⟨x + radiusX, bottom⟩, ⟨x, bottom - radiusY⟩),
          (some ⟨x, y + radiusY⟩, ⟨x + radiusX, y⟩)] ++ [.close])

/-- Read points up to the first that cannot be read. Every round takes at least one character, which
the fuel bounds. -/
def pointsFrom : Nat → List Char → List (Point Float32)
  | 0, _ => []
  | fuel + 1, text =>
      match listNumbers? 2 text with
      | some ([x, y], rest) => ⟨x.toFloat32, y.toFloat32⟩ :: pointsFrom fuel rest
      | _ => []

/-- The outline of lines between points, of which there are at least two. -/
def polylineOutline (isClosed : Bool) (text : List Char) : Outline :=
  match pointsFrom (text.length + 1) text with
  | first :: rest@(_ :: _) =>
      .move first :: (rest.map Segment.line ++ if isClosed then [.close] else [])
  | _ => []

def ShapeKind.outline (scale : Scale) (head : Head) (kind : ShapeKind) : Outline :=
  let across (name : String) : Float32 := scale.across ((length? head name).getD .zero)
  let down (name : String) : Float32 := scale.down ((length? head name).getD .zero)
  match kind with
  | .rectangle =>
      let width := across "width"
      let height := down "height"
      if isPositive width && isPositive height then
        let (radiusX, radiusY) := radii scale head
        rectangleOutline (across "x") (down "y") width height
          (if width / 2 < radiusX then width / 2 else radiusX)
          (if height / 2 < radiusY then height / 2 else radiusY)
      else []
  | .circle =>
      let radius := scale.around ((length? head "r").getD .zero)
      if isPositive radius then ellipseOutline (across "cx") (down "cy") radius radius
      else []
  | .ellipse =>
      let (radiusX, radiusY) := radii scale head
      if isPositive radiusX && isPositive radiusY then
        ellipseOutline (across "cx") (down "cy") radiusX radiusY
      else []
  | .line => [.move ⟨across "x1", down "y1"⟩, .line ⟨across "x2", down "y2"⟩]
  | .polyline => polylineOutline false ((attribute? head "points").getD [])
  | .polygon => polylineOutline true ((attribute? head "points").getD [])
  | .path => pathOutline ((attribute? head "d").getD [])

end Chronogram.Picture
