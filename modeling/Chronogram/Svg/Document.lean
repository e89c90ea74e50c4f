import Chronogram.Drawing
import Chronogram.Svg.Token

/-!
Drawings as SVG documents.

Every shape becomes one element on a line of its own. The header holds the style sheet, the arrow
head, a border and the frame of the title. With a root id, the id of the arrow head and the rules of
the style sheet are bound to the document, so that several documents can share a page.
-/

namespace Chronogram.Svg

def markerId : Option String → String
  | some root => root ++ "-arrow"
  | none => "arrow"

def thinStroke : Float := 1

def borderStroke : Float := 2

def dashLength : Float := 10

/-- How far the corner of the frame of the title is cut off. -/
def titleBevel : Float := 20

def pointPieces (p : Point Float) : List Piece :=
  [.scaled p.x, .literal ",", .scaled p.y]

def pointListPieces (points : List (Point Float)) : List Piece :=
  ((points.map pointPieces).intersperse [.literal " "]).flatten

def pointsAttribute (points : List (Point Float)) : Attribute :=
  ⟨"points", pointListPieces points⟩

def strokeAttributes (width : Float) : List Attribute :=
  [.fixed "stroke" "black", .number "stroke-width" width]

def dashAttributes (dashed : Bool) : List Attribute :=
  if dashed then [.number "stroke-dasharray" dashLength] else []

/-- The attributes of an open line through some points. -/
def polylineAttributes (points : List (Point Float)) (width : Float) : List Attribute :=
  pointsAttribute points :: .fixed "fill" "none" :: strokeAttributes width

def markerReference (marker : String) : String :=
  "url(#" ++ marker ++ ")"

def shapeTokens (marker : String) : Shape Float → List Token
  | .line start finish dashed =>
      [.emptyTag "line"
        ([.number "x1" start.x, .number "y1" start.y, .number "x2" finish.x,
          .number "y2" finish.y] ++ strokeAttributes thinStroke ++ dashAttributes dashed)]
  | .rect origin size fill =>
      [.emptyTag "rect"
        ([.number "x" origin.x, .number "y" origin.y, .number "width" size.width,
          .number "height" size.height, .fixed "fill" (fill.getD "none")] ++
          match fill with
          | none => strokeAttributes thinStroke
          | some _ => [.fixed "stroke" "none"])]
  | .polygon points fill =>
      [.emptyTag "polygon" [pointsAttribute points, .fixed "fill" fill, .fixed "stroke" "none"]]
  | .polyline points width => [.emptyTag "polyline" (polylineAttributes points width)]
  | .text position role content anchor =>
      [.startTag "text"
        ((anchor.toList.map fun anchor => .fixed "text-anchor" anchor.name) ++
          [.number "x" position.x, .number "y" position.y, .fixed "class" role.name]),
        .fixed content, .endTag "text"]
  | .arrow start finish style =>
      [.emptyTag "polyline"
        (polylineAttributes [start, finish] thinStroke ++ dashAttributes (style = .dashed) ++
          [.fixed "marker-end" (markerReference marker)])]
  | .doubleArrow start finish =>
      [.emptyTag "polyline"
        (polylineAttributes [start, finish] thinStroke ++
          [.fixed "marker-start" (markerReference marker),
            .fixed "marker-end" (markerReference marker)])]

def roleRule (scope : String) (role : TextClass) : List Piece :=
  [.literal ("  " ++ scope ++ "." ++ role.name ++ " \x7b font-family: " ++ fontFamily ++
      "; font-size: "),
    .scaled (Float.ofInt role.fontSize),
    .literal ("px; font-weight: " ++ (if role.isBold then "bold" else "normal") ++ " \x7d\n")]

def styleSheet (scope : String) : List Piece :=
  .literal "\n" :: TextClass.all.flatMap (roleRule scope) ++
    [.literal ("  " ++ scope ++ "text \x7b white-space: pre \x7d\n")]

/-- The part of a selector that binds a rule to a document. -/
def styleScope : Option String → String
  | some root => "#" ++ root ++ " "
  | none => ""

def rootTag (root : Option String) (size : Size Float) : Token :=
  .startTag "svg"
    (.fixed "xmlns" "http://www.w3.org/2000/svg" :: (root.toList.map (.fixed "id" ·)) ++
      [.number "width" size.width, .number "height" size.height,
        ⟨"viewBox", [.literal "0 0 ", .scaled size.width, .literal " ", .scaled size.height]⟩])

/-- The definition of the arrow head. -/
def markerTokens (marker : String) : List Token :=
  [.startTag "defs" [],
    .startTag "marker"
      [.fixed "id" marker, .fixed "viewBox" "0 0 15 15", .fixed "refX" "15", .fixed "refY" "7.5",
        .fixed "markerWidth" "9", .fixed "markerHeight" "9",
        .fixed "orient" "auto-start-reverse"],
    .emptyTag "path" [.fixed "d" "M 0 0 L 15 7.5 L 0 15 z"],
    .endTag "marker", .endTag "defs"]

/-- The two edges of the page that have a border. -/
def borderPoints (size : Size Float) : List (Point Float) :=
  [⟨size.width - borderStroke, 0⟩, ⟨size.width - borderStroke, size.height - borderStroke⟩,
    ⟨0, size.height - borderStroke⟩]

/-- The frame of the title with its cut-off corner. -/
def framePoints (frame : Size Float) : List (Point Float) :=
  [⟨0, frame.height⟩, ⟨frame.width - titleBevel, frame.height⟩,
    ⟨frame.width, frame.height - titleBevel⟩, ⟨frame.width, 0⟩]

/-- Everything in front of the shapes. -/
def header (root : Option String) (size frame : Size Float) : List Token :=
  [.declaration, .newline, rootTag root size, .newline, .startTag "style" [],
    .characters (styleSheet (styleScope root)), .endTag "style", .newline] ++
    markerTokens (markerId root) ++
    [.newline, .emptyTag "polyline" (polylineAttributes (borderPoints size) borderStroke),
      .newline, .emptyTag "polyline" (polylineAttributes (framePoints frame) borderStroke),
      .newline]

def footer : List Token :=
  [.endTag "svg", .newline]

def document (root : Option String) (page : Page Float) : List Token :=
  header root ⟨page.width, page.height⟩ page.title.frame ++
    (Drawing.ofPage page).flatMap (fun shape => shapeTokens (markerId root) shape ++ [.newline]) ++
    footer

def render (root : Option String) (page : Page Float) : String :=
  writeTokens page.scale (document root page)

end Chronogram.Svg
