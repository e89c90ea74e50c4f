import Chronogram.Picture.Extent
import Chronogram.Xml.Document

/-!
The size of a picture.

The sides are given as lengths, in single precision and in pixels. A side without a readable length
is the whole side of the view, and a percentage is that part of it. Where there is no view, it is
that part of a hundred pixels; the size is then what it takes to show everything that is drawn right
of and below the origin, if anything is.
-/

namespace Chronogram.Picture

open Xml

structure Size where
  width : Float32
  height : Float32

def Size.of? (width height : Float32) : Option Size :=
  if isPositive width && isPositive height then some ⟨width, height⟩ else none

def freeSide (fontSize : Thunk Float32) (length : Length) : Float32 :=
  match length.unit with
  | .percent => (length.number / 100 * 100).toFloat32
  | _ => length.pixels fontSize 100

/-- The size that shows all that is drawn below and right of the origin. -/
def shownSize? (library : Library) (size : Size) (root : Site) : Option Size := do
  let around : Surroundings :=
    ⟨[], defaultFontSize, .still, ⟨0, 0, size.width, size.height⟩, none, []⟩
  let box ← extendBy library greatestLevels around (none, none) none root
  Size.of? box.right box.bottom

/-- How the sizes of images in addresses are found. -/
abbrev ImageSizes := List Char → Option (Float32 × Float32)

def sizeOf? (images : ImageSizes) (links : Thunk Links) (nodes : List Node) (root : Site) :
    Option Size := do
  let sheet := Thunk.mk fun _ => sheetOf nodes
  let fontSize := Thunk.mk fun _ =>
    (Style.of sheet.get [] root.rank root.outer).fontSizeIn defaultFontSize
  let width := (length? root.head "width").getD .whole
  let height := (length? root.head "height").getD .whole
  match view? root.head with
  | some view => Size.of? (width.pixels fontSize view.width) (height.pixels fontSize view.height)
  | none => do
      let size ← Size.of? (freeSide fontSize width) (freeSide fontSize height)
      if width.unit = .percent || height.unit = .percent then
        (shownSize? ⟨sheet.get, links.get, images⟩ size root).or (some size)
      else some size

/-- The size of the picture in a document with images. The first element that belongs to a picture
must be a picture itself. -/
def sizeWith? (images : ImageSizes) (document : List Char) : Option Size := do
  let nodes ← nodes? document
  let links := Thunk.mk fun _ => Links.ofNodes nodes
  if isBounded links nodes then
    let root ← (sitesFrom [] [] nodes).find? fun site =>
      (Kind.of? site.head.name).any (· ≠ .sheet)
    if Kind.of? root.head.name = some .picture then sizeOf? images links nodes root else none
  else none

/-- The size of an image in an address: a bitmap, or a picture that holds no images itself. -/
def imageSize? : ImageSizes := fun address => do
  let data ← Data.read? address
  if data.kind = .bitmap || (data.kind = .text && isBitmap data.bytes) then
    let (width, height) ← bitmapSize? data.bytes
    let size ← Size.of? width.toFloat32 height.toFloat32
    some (size.width, size.height)
  else
    let document ← String.fromUTF8? ⟨data.bytes.toArray⟩
    let size ← sizeWith? (fun _ => none) document.toList
    some (size.width, size.height)

def size? (document : String) : Option Size :=
  sizeWith? imageSize? document.toList

end Chronogram.Picture
