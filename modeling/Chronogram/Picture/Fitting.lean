import Chronogram.Picture.Transform

/-!
Views and images in their frames.

A view is scaled to its frame so that it fits in or fills it, keeping its form, and lies in the
middle of it or at its sides. It may be stretched to the frame instead. An image is fitted in the
same way.
-/

namespace Chronogram.Picture

open Xml

/-- Where a view lies along an axis of its frame. -/
inductive Alignment where
  | least
  | middle
  | greatest
  deriving Repr, DecidableEq

structure Fitting where
  /-- Where the view lies along both axes, unless it is stretched to the frame. -/
  alignment : Option (Alignment × Alignment)
  /-- Whether the frame is filled, so that parts of the view lie outside. -/
  isSliced : Bool

namespace Fitting

def standard : Fitting := ⟨some (.middle, .middle), false⟩

/-- The words for where a view lies along an axis. -/
def alignmentWords : List (String × Alignment) :=
  [("Min", .least), ("Mid", .middle), ("Max", .greatest)]

def words : List (String × Option (Alignment × Alignment)) :=
  ("none", none) :: alignmentWords.flatMap fun (x, across) =>
    alignmentWords.map fun (y, down) => ("x" ++ x ++ "Y" ++ y, some (across, down))

def read? (text : List Char) : Option Fitting := do
  let text := skipSpace text
  let text ← match after? "defer" text with
    | some rest => (after? " " rest).map skipSpace
    | none => some text
  let word := text.takeWhile isWordChar
  let alignment ← words.lookup (String.ofList word)
  let rest := skipSpace (text.drop word.length)
  let isSliced ← match String.ofList (rest.takeWhile isWordChar) with
    | "slice" => some true
    | "meet" => some false
    | "" => some false
    | _ => none
  some ⟨alignment, isSliced⟩

def distance (room : Float32) : Alignment → Float32 → Float32
  | .least, start => start
  | .middle, start => start + room / 2
  | .greatest, start => start + room

def map (fitting : Fitting) (view : View) (width height : Float32) : Affine Float32 :=
  let across := width / view.width
  let down := height / view.height
  match fitting.alignment with
  | none => ⟨across, 0, 0, down, -view.x * across, -view.y * down⟩
  | some (alignX, alignY) =>
      let factor :=
        if fitting.isSliced then if across < down then down else across
        else if down < across then down else across
      { a := factor
        b := 0
        c := 0
        d := factor
        e := distance (width - view.width * factor) alignX (-view.x * factor)
        f := distance (height - view.height * factor) alignY (-view.y * factor) }

end Fitting

def fittingOf (head : Head) : Fitting :=
  ((attribute? head "preserveAspectRatio").bind Fitting.read?).getD .standard

/-- The map that fits the view of an element, if it has one, into a frame. -/
def fittingMap (head : Head) (width height : Float32) : Affine Float32 :=
  match view? head with
  | some view =>
      if isPositive width && isPositive height then
        (fittingOf head).map view width height
      else .still
  | none => .still

/-- The sides of an image that is scaled to a frame, keeping its form: one of them is that of the
frame. -/
def Fitting.imageSides (fitting : Fitting) (width height frameWidth frameHeight : Float32) :
    Float32 × Float32 :=
  match fitting.alignment with
  | none => (frameWidth, frameHeight)
  | some _ =>
      let scaled := frameHeight * width / height
      if (if fitting.isSliced then scaled ≤ frameWidth else frameWidth ≤ scaled) then
        (frameWidth, frameWidth * height / width)
      else (scaled, frameHeight)

def Fitting.imageMap? (fitting : Fitting) (width height : Float32) (frame : View) :
    Option (Affine Float32) := do
  let (sideX, sideY) := fitting.imageSides width height frame.width frame.height
  let (x, y) := match fitting.alignment with
    | none => (frame.x, frame.y)
    | some (alignX, alignY) =>
        (distance (frame.width - sideX) alignX frame.x,
          distance (frame.height - sideY) alignY frame.y)
  let sideX ← distance? x sideX
  let sideY ← distance? y sideY
  some ⟨sideX / width, 0, 0, sideY / height, x, y⟩

end Chronogram.Picture
