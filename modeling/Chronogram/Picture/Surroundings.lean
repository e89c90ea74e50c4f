import Chronogram.Picture.Fitting
import Chronogram.Picture.Links
import Chronogram.Picture.Shape

/-!
What an element takes from the elements around it.

Styles, the size of letters, coordinates and the view that percentages refer to come from outside.
Pictures within the picture and copies of symbols change all of them.
-/

namespace Chronogram.Picture

open Css (Sheet)
open Xml

structure Library where
  sheet : Sheet
  links : Links
  /-- The size of an image that is written in an address. -/
  imageSize? : List Char → Option (Float32 × Float32)

/-- The style of an element where it stands in the document. -/
def Library.styles (library : Library) (site : Site) : List Style :=
  stylesOf library.sheet (site.rank :: site.outer)

/-- What an element takes from the elements around it. -/
structure Surroundings where
  /-- The styles of the elements around it, the innermost first. -/
  styles : List Style
  fontSize : Float32
  /-- Where the coordinates of the element lie in the picture. -/
  place : Affine Float32
  view : View
  /-- The element for which the copy is made that the element belongs to. -/
  origin : Option Nat
  /-- The markers that the element belongs to. -/
  markers : List Nat

/-- What lengths in an element refer to, once its style is known. -/
def Surroundings.scale (around : Surroundings) : Scale := ⟨around.fontSize, around.view⟩

def Surroundings.enter (around : Surroundings) (style : Style) : Surroundings :=
  { around with
    styles := style :: around.styles
    fontSize := style.fontSizeIn around.fontSize }

def Surroundings.moved (around : Surroundings) (map : Affine Float32) : Surroundings :=
  { around with place := around.place.compose map }

/-- Cut a text at its commas, with the reversed characters of the current part in the accumulator.
-/
def partsFrom (seen : List Char) : List Char → List (List Char)
  | [] => [seen.reverse]
  | c :: rest => if c = ',' then seen.reverse :: partsFrom [] rest else partsFrom (c :: seen) rest

def includesEnglish (languages : List Char) : Bool :=
  (partsFrom [] languages).any fun language =>
    (Text.trim language).takeWhile (· ≠ '-') = "en".toList

/-- Whether an element asks for nothing that is not there. -/
def isAvailable (head : Head) : Bool :=
  (attribute? head "requiredExtensions").isNone &&
    (attribute? head "systemLanguage").all includesEnglish

/-- A view of given sides at the origin, or another one where they are no lengths. -/
def View.ofSides (x y width height : Float32) (other : View) : View :=
  if isPositive width && isPositive height then ⟨x, y, width, height⟩ else other

/-- The width and the height that are asked for with an element; the whole view where it asks for
none. -/
def sides (scale : Scale) (head : Head) : Float32 × Float32 :=
  (scale.across ((length? head "width").getD .whole),
    scale.down ((length? head "height").getD .whole))

/-- The way from the origin that is asked for with an element. -/
def offset (scale : Scale) (head : Head) : Affine Float32 :=
  .displacement (scale.across ((length? head "x").getD .zero))
    (scale.down ((length? head "y").getD .zero))

/-- What the parts of a picture within the picture take from it. Where it is copied, the sides that
are asked for with the copy replace its own. -/
def Surroundings.withinPicture (around : Surroundings) (head : Head)
    (copySides : Option Float32 × Option Float32) : Surroundings :=
  let (width, height) := sides around.scale head
  let width := copySides.1.getD width
  let height := copySides.2.getD height
  let map := (offset around.scale head).compose (fittingMap head width height)
  { around.moved map with
    view := (view? head).getD (View.ofSides 0 0 width height around.view) }

/-- What the parts of a symbol take from its copy. -/
def Surroundings.withinSymbol (around : Surroundings) (use symbol : Head) : Surroundings :=
  let (width, height) := sides around.scale use
  let width' := if (attribute? use "width").isSome then width else around.view.width
  let height' := if (attribute? use "height").isSome then height else around.view.height
  { around.moved (fittingMap symbol width height) with
    view := View.ofSides around.view.x around.view.y width' height' around.view }

def copySides (scale : Scale) (head : Head) : Option Float32 × Option Float32 :=
  let (width, height) := sides scale head
  (if (attribute? head "width").isSome then some width else none,
    if (attribute? head "height").isSome then some height else none)

/-- What lengths refer to in an element that is used elsewhere: its own letters, and the view there.
-/
def Surroundings.scaleOf (around : Surroundings) (library : Library) (site : Site) : Scale :=
  ⟨fontSizeOf (library.styles site), around.view⟩

/-- What the parts of an element take from it that is used elsewhere. -/
def Surroundings.within (around : Surroundings) (library : Library) (site : Site) : Surroundings :=
  let styles := library.styles site
  { around with styles, fontSize := fontSizeOf styles, origin := none }

end Chronogram.Picture
