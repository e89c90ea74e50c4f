import Chronogram.Number.Arithmetic
import Chronogram.Number.Reading
import Chronogram.Picture.Kind

/-!
Lengths and lists of numbers.

A length is a number with a unit. In a picture it is a number of pixels in single precision. A
percentage is a part of the width or the height of the view, or of its diagonal over the square root
of two.
-/

namespace Chronogram.Picture

open Number Xml

inductive LengthUnit where
  | pixel
  | em
  | ex
  | inch
  | centimeter
  | millimeter
  | point
  | pica
  | percent
  deriving Repr, DecidableEq

/-- The texts of units. A number alone counts pixels. -/
def LengthUnit.names : List (String × LengthUnit) :=
  [("%", .percent), ("em", .em), ("ex", .ex), ("px", .pixel), ("in", .inch), ("cm", .centimeter),
   ("mm", .millimeter), ("pt", .point), ("pc", .pica), ("", .pixel)]

structure Length where
  number : Float
  unit : LengthUnit

def digits (text : List Char) : List Char × List Char :=
  (text.takeWhile Char.isDigit, text.dropWhile Char.isDigit)

/-- The power of ten at the front of a text, which is none if a unit with the same letter stands
there. -/
def power? (text : List Char) : Option (List Char × List Char) :=
  match text with
  | marker :: next :: rest =>
      if (marker = 'e' || marker = 'E') && next ≠ 'm' && next ≠ 'x' then
        if next = '+' || next = '-' then
          let (power, rest) := digits rest
          some (marker :: next :: power, rest)
        else if next.isDigit then
          let (power, rest) := digits (next :: rest)
          some (marker :: power, rest)
        else none
      else some ([], text)
  | [marker] => if marker = 'e' || marker = 'E' then none else some ([], text)
  | [] => some ([], [])

/-- Read a finite number at the front of a text. Blanks may stand before it. -/
def number? (text : List Char) : Option (Float × List Char) := do
  let text := skipSpace text
  let (sign, rest) := match text with
    | c :: rest => if c = '+' || c = '-' then ([c], rest) else ([], text)
    | [] => ([], [])
  let (whole, rest) := digits rest
  let (fraction, rest) := match rest with
    | '.' :: behind => let (fraction, rest) := digits behind; ('.' :: fraction, rest)
    | _ => ([], rest)
  let (power, rest) ← power? rest
  let value ← readFloat? (sign ++ whole ++ fraction ++ power)
  if value.isFinite then some (value, rest) else none

/-- Read a number of a list: blanks and one comma may follow it. -/
def listNumber? (text : List Char) : Option (Float × List Char) :=
  (number? text).map fun (value, rest) =>
    match skipSpace rest with
    | ',' :: behind => (value, behind)
    | behind => (value, behind)

def listNumbers? : Nat → List Char → Option (List Float × List Char)
  | 0, text => some ([], text)
  | count + 1, text => do
      let (first, rest) ← listNumber? text
      let (others, rest) ← listNumbers? count rest
      some (first :: others, rest)

def Length.readFront? (text : List Char) : Option (Length × List Char) := do
  let (number, rest) ← number? text
  let (name, unit) ← LengthUnit.names.find? fun (name, _) => name.toList.isPrefixOf rest
  some (⟨number, unit⟩, rest.drop name.length)

def Length.read? (text : List Char) : Option Length :=
  match Length.readFront? text with
  | some (length, []) => some length
  | _ => none

def length? (head : Head) (name : String) : Option Length :=
  (attribute? head name).bind Length.read?

def resolution : Float32 := 96

/-- The pixels of a number with a unit, for a size of letters and a whole side. -/
def LengthUnit.pixels (fontSize : Thunk Float32) (whole number : Float32) : LengthUnit → Float32
  | .pixel => number
  | .em => number * fontSize.get
  | .ex => number * fontSize.get / 2
  | .inch => number * resolution
  | .centimeter => number * resolution / 2.54
  | .millimeter => number * resolution / 25.4
  | .point => number * resolution / 72
  | .pica => number * resolution / 6
  | .percent => whole * (number / 100)

def Length.pixels (length : Length) (fontSize : Thunk Float32) (whole : Float32) : Float32 :=
  length.unit.pixels fontSize whole (Value.singleOf length.number)

def Length.whole : Length := ⟨100, .percent⟩

def Length.zero : Length := ⟨0, .pixel⟩

/-- Whether a number is finite and above zero. -/
def isPositive (number : Float32) : Bool :=
  0 < number && number.isFinite

/-- The part of the plane that a picture shows. -/
structure View where
  x : Float32
  y : Float32
  width : Float32
  height : Float32

/-- The side that percentages without a direction refer to. -/
def View.diagonal (view : View) : Float32 :=
  ((view.width * view.width + view.height * view.height) / 2).sqrt

/-- The distance from a place to the place that lies a given length further, if it is positive. -/
def distance? (place length : Float32) : Option Float32 :=
  (some (length + place - place)).filter isPositive

/-- Read a view: two places and two positive lengths. -/
def View.read? (text : List Char) : Option View :=
  match listNumbers? 4 text with
  | some ([x, y, width, height], _) =>
      if 0 < width && 0 < height then do
        let x := Value.singleOf x
        let y := Value.singleOf y
        let width ← distance? x (Value.singleOf width)
        let height ← distance? y (Value.singleOf height)
        some ⟨x, y, width, height⟩
      else none
  | _ => none

def view? (head : Head) : Option View :=
  (attribute? head "viewBox").bind View.read?

end Chronogram.Picture
