import Chronogram.Picture.Size
import Chronogram.Number.Arithmetic
import Chronogram.Raster.Color

/-!
The canvas of a raster image.

The size of the canvas is the size of the document, in single precision, times the scale, rounded up
to whole pixels. The background is checked before the document, and the document before the size.
-/

namespace Chronogram.Raster

open Number

/-- Why there is no image. -/
inductive RasterFault where
  | invalidBackground (text : String)
  | unreadableDocument
  | tooLarge
  deriving Repr, DecidableEq

def RasterFault.message : RasterFault → String
  | .invalidBackground text => "invalid background color: " ++ text
  | .unreadableDocument => "failed to parse SVG"
  | .tooLarge => "failed to allocate pixmap for raster rendering"

/-- An image before anything is drawn. -/
structure Canvas where
  width : Nat
  height : Nat
  background : Color
  deriving Repr, DecidableEq

/-- How an image is made of a document. -/
structure RasterOptions where
  scale : Value
  background : Option String

/-- Why a document does not become an image. -/
inductive ImageFault where
  | raster (fault : RasterFault)
  | notEncoded
  deriving Repr, DecidableEq

def ImageFault.message : ImageFault → String
  | .raster fault => fault.message
  | .notEncoded => "failed to encode PNG"

/-- What makes an image of a document, or tells why there is none. -/
abbrev Painter (Image : Type) := RasterOptions → String → Except ImageFault Image

def unitScale : Value := .finite false Format.single.fullMantissa (-23)

/-- The greatest number of pixels of a side that can be counted. -/
def greatestSide : Nat := 0xFFFFFFFF

/-- The greatest side of a canvas; the bytes of a row must fit a signed 32-bit word. -/
def greatestCanvasSide : Nat := 0x1FFFFFFF

/-- The whole number of pixels that holds a length, at least one. -/
def pixels : Value → Nat
  | .finite false mantissa exponent =>
      let (n, d) := scaleByTwo mantissa 1 (-exponent)
      max 1 (min greatestSide ((n + d - 1) / d))
  | .infinite false => greatestSide
  | _ => 1

def backgroundOf : Option String → Except RasterFault Color
  | none => .ok .transparent
  | some text =>
      match Color.read? text.toList with
      | some color => .ok color
      | none => .error (.invalidBackground text)

def canvas (options : RasterOptions) (svg : String) : Except RasterFault Canvas := do
  let background ← backgroundOf options.background
  match Picture.size? svg with
  | none => .error .unreadableDocument
  | some size =>
      let side (length : Float32) : Nat :=
        pixels ((Value.ofSingle length).times Format.single options.scale)
      if greatestCanvasSide < max (side size.width) (side size.height) then .error .tooLarge
      else .ok ⟨side size.width, side size.height, background⟩

def emptyPainter : Painter Canvas := fun options svg =>
  (canvas options svg).mapError .raster

end Chronogram.Raster
