import Chronogram.Picture.Plane
import Chronogram.Picture.Style

/-!
The transformation of an element.

It is written as a row of steps, of which the last one is applied first. A row that cannot be read
changes nothing. An element may name a point that the transformation leaves in its place.
-/

namespace Chronogram.Picture

open Xml

def radiansPerDegree : Float := 3.14159265358979323846 / 180

/-- The maps of a step: its name, and what follows its opening parenthesis. -/
def stepMaps? (name : String) (text : List Char) : Option (List (Affine Float) × List Char) := do
  let closes (rest : List Char) : Bool := (skipSpace rest).head? = some ')'
  match name with
  | "matrix" =>
      match ← listNumbers? 6 text with
      | ([a, b, c, d, e, f], rest) => some ([⟨a, b, c, d, e, f⟩], rest)
      | _ => none
  | "translate" => do
      let (x, rest) ← listNumber? text
      let (y, rest) ← if closes rest then some (0, rest) else listNumber? rest
      some ([⟨1, 0, 0, 1, x, y⟩], rest)
  | "scale" => do
      let (x, rest) ← listNumber? text
      let (y, rest) ← if closes rest then some (x, rest) else listNumber? rest
      some ([⟨x, 0, 0, y, 0, 0⟩], rest)
  | "rotate" => do
      let (angle, rest) ← listNumber? text
      let angle := angle * radiansPerDegree
      let turn : Affine Float := ⟨angle.cos, angle.sin, -angle.sin, angle.cos, 0, 0⟩
      if closes rest then some ([turn], rest)
      else do
        let (x, rest) ← listNumber? rest
        let (y, rest) ← listNumber? rest
        some ([⟨1, 0, 0, 1, x, y⟩, turn, ⟨1, 0, 0, 1, -x, -y⟩], rest)
  | "skewX" => do
      let (angle, rest) ← listNumber? text
      some ([⟨1, 0, (angle * radiansPerDegree).tan, 1, 0, 0⟩], rest)
  | "skewY" => do
      let (angle, rest) ← listNumber? text
      some ([⟨1, (angle * radiansPerDegree).tan, 0, 1, 0, 0⟩], rest)
  | _ => none

/-- Read a row of steps behind those that give a map. Every round takes at least one character,
which the fuel bounds. -/
def stepsFrom? : Nat → Affine Float → List Char → Option (Affine Float)
  | 0, _, _ => none
  | fuel + 1, map, text =>
      match skipSpace text with
      | [] => some map
      | rest => do
          let name := rest.takeWhile isWordChar
          let rest ← after? "(" (skipSpace (rest.drop name.length))
          let (maps, rest) ← stepMaps? (String.ofList name) rest
          let rest ← after? ")" (skipSpace rest)
          let rest := skipSpace rest
          stepsFrom? fuel (maps.foldl Affine.after map) ((after? "," rest).getD rest)

def steps? (text : List Char) : Option (Affine Float32) :=
  (stepsFrom? (text.length + 1) .identity text).map Affine.toSingle

/-- A part of the point that a transformation leaves in its place. -/
inductive OriginPart where
  | left
  | right
  | top
  | bottom
  | center
  | measured (length : Length)

namespace OriginPart

def words : List (String × OriginPart) :=
  [("left", .left), ("right", .right), ("top", .top), ("bottom", .bottom), ("center", .center)]

def readFront? (text : List Char) : Option (OriginPart × List Char) :=
  let text := skipSpace text
  match words.find? fun (word, _) => word.toList.isPrefixOf text with
  | some (word, part) => some (part, text.drop word.length)
  | none => (Length.readFront? text).map fun (length, rest) => (.measured length, rest)

def fromLeft? : OriginPart → Option Length
  | .left => some ⟨0, .percent⟩
  | .right => some ⟨100, .percent⟩
  | .center => some ⟨50, .percent⟩
  | .measured length => some length
  | _ => none

def fromTop? : OriginPart → Option Length
  | .top => some ⟨0, .percent⟩
  | .bottom => some ⟨100, .percent⟩
  | .center => some ⟨50, .percent⟩
  | .measured length => some length
  | _ => none

def isWord : OriginPart → Bool
  | .measured _ => false
  | _ => true

/-- The point of two parts. Two words may stand in either order. -/
def point? (first second : OriginPart) : Option (Length × Length) :=
  match first.fromLeft?, second.fromTop? with
  | some x, some y => some (x, y)
  | _, _ =>
      if first.isWord && second.isWord then
        match second.fromLeft?, first.fromTop? with
        | some x, some y => some (x, y)
        | _, _ => none
      else none

end OriginPart

/-- Drop white space and one comma. -/
def skipSeparator (text : List Char) : List Char :=
  let text := skipSpace text
  (after? "," text).getD text

/-- Read the point that a transformation leaves in its place: one or two parts, and a length that
does not count. -/
def origin? (text : List Char) : Option (Length × Length) := do
  let (first, rest) ← OriginPart.readFront? text
  if rest.isEmpty then
    match first.fromLeft? with
    | some _ => first.point? .center
    | none => OriginPart.center.point? first
  else
    let (second, rest) ← OriginPart.readFront? (skipSeparator rest)
    let rest ← if rest.isEmpty then some rest
      else (Length.readFront? (skipSeparator rest)).map Prod.snd
    if (skipSpace rest).isEmpty then first.point? second else none

/-- Whether a style lets its element be drawn: the element is displayed, and no transformation makes
it vanish. -/
def Style.isDrawn (style : Style) : Bool :=
  style.value? .display ≠ some "none".toList &&
    ((style.value? .transform).bind steps?).all Affine.isValid

/-- The transformation of an element, for its size of letters and the view around it. -/
def Style.transformation (style : Style) (fontSize : Float32) (view : View) : Affine Float32 :=
  let map := (((style.value? .transform).bind steps?).filter Affine.isValid).getD .still
  match (style.value? .transformOrigin).bind origin? with
  | none => map
  | some (x, y) =>
      let x := x.pixels (Thunk.pure fontSize) view.width
      let y := y.pixels (Thunk.pure fontSize) view.height
      (((Affine.displacement x y).compose map).compose (Affine.displacement (-x) (-y)))

end Chronogram.Picture
