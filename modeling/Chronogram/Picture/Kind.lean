import Chronogram.Xml.Node

/-!
The elements of pictures.

An element belongs to a picture if its name is known and it has the name space of SVG or none.
-/

namespace Chronogram.Picture

open Xml

def svgSpace : List Char := "http://www.w3.org/2000/svg".toList

def linkSpace : List Char := "http://www.w3.org/1999/xlink".toList

/-- The value of an attribute, if a name space that counts holds it. -/
def attribute? (head : Head) (name : String) : Option (List Char) :=
  let counts (given : Attribute) : Bool :=
    given.name.name = name.toList &&
      [none, some svgSpace, some linkSpace, some xmlSpace].contains given.name.space
  (head.attributes.find? counts).map Attribute.value

inductive ShapeKind where
  | rectangle
  | circle
  | ellipse
  | line
  | polyline
  | polygon
  | path
  deriving Repr, DecidableEq

/-- What an element is for. -/
inductive Kind where
  | shape (kind : ShapeKind)
  | group
  /-- The picture itself or one within it. -/
  | picture
  /-- Only one of the parts is drawn. -/
  | choice
  /-- A picture that is drawn only where it is used. -/
  | symbol
  /-- Another element is drawn in this place. -/
  | use
  | image
  | text
  | sheet
  /-- What other elements are cut to. -/
  | clip
  /-- What other elements are faded with. -/
  | mask
  /-- How other elements are changed once they are drawn. -/
  | filter
  /-- What is drawn at the points of lines. -/
  | marker
  /-- Anything else that is not drawn in its place. -/
  | resource
  deriving Repr, DecidableEq

/-- The elements for other resources, and what stands in resources or in text. -/
def resourceNames : List String :=
  ["defs", "feBlend", "feColorMatrix", "feComponentTransfer", "feComposite",
   "feConvolveMatrix", "feDiffuseLighting", "feDisplacementMap", "feDistantLight", "feDropShadow",
   "feFlood", "feFuncA", "feFuncB", "feFuncG", "feFuncR", "feGaussianBlur", "feImage", "feMerge",
   "feMergeNode", "feMorphology", "feOffset", "fePointLight", "feSpecularLighting", "feSpotLight",
   "feTile", "feTurbulence", "linearGradient", "pattern", "radialGradient", "stop", "textPath",
   "tref", "tspan"]

/-- The kinds of elements by their names. -/
def Kind.names : List (String × Kind) :=
  [("rect", .shape .rectangle), ("line", .shape .line), ("text", .text), ("g", .group),
   ("path", .shape .path), ("polyline", .shape .polyline), ("polygon", .shape .polygon),
   ("circle", .shape .circle), ("ellipse", .shape .ellipse), ("a", .group), ("svg", .picture),
   ("switch", .choice), ("symbol", .symbol), ("use", .use), ("image", .image), ("style", .sheet),
   ("clipPath", .clip), ("mask", .mask), ("filter", .filter), ("marker", .marker)] ++
    resourceNames.map fun name => (name, .resource)

def Kind.of? (name : ExpandedName) : Option Kind :=
  if name.space = none || name.space = some svgSpace then
    Kind.names.lookup (String.ofList name.name)
  else none

end Chronogram.Picture
